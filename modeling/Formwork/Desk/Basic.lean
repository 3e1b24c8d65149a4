import Formwork.Form.Processor
import Formwork.Form.Registry
import Formwork.Form.Snapshot
import Formwork.Page.Render
import Formwork.Session.Store
import Formwork.Template.Source

/-!
# The desk

A desk is what the pages of one request talk to. It keeps the forms, hands them out as pages and
takes them back: whenever a form is displayed it is saved under a fresh identifier, and the form that
comes back with an identifier is processed as it was saved.

Two kinds of operation are told apart. `Desk.reporting` is for operations that either succeed or
leave the desk as it is but for one report. `Desk.Display` is for displays, which keep what they did
before they failed.
-/

namespace Formwork

/-- What the pages of one request talk to. -/
structure Desk where
  /-- The settings. -/
  settings : Settings
  /-- The database connections. -/
  connections : Connections
  /-- Where templates, scripts and styles come from. -/
  templates : TemplateSource
  /-- The tokens of opened forms. -/
  issuer : CsrfIssuer
  /-- The identifier of every form that will be saved, by the number of forms saved before it. -/
  identifiers : Nat → String
  /-- Makes the widgets of forms that come back. -/
  make : Field → Widget := fun field => { field }
  /-- The forms. -/
  forms : Registry := .empty
  /-- The reports. -/
  diagnostics : Diagnostics := .empty
  /-- What was posted with the request. -/
  submission : Submission := .empty
  /-- The processors made so far, by identifier. -/
  processors : TextMap Processor := .empty
  /-- The saved forms. -/
  store : SessionStore := .empty
  /-- The time on the clock of the store. -/
  now : Int := 0
  /-- What writing to the store fails with, if it does. -/
  writeFault : Option Failure := none
  /-- What reading from the store fails with, if it does. -/
  readFault : Option Failure := none
  /-- The number of forms saved. -/
  saved : Nat := 0
  /-- The number of tokens issued. -/
  issued : Nat := 0
  /-- The queries run, in order. -/
  queries : List Query := []

namespace Desk

/-- The desk with one more report. -/
def report (desk : Desk) (level : Level) (message : String) : Desk :=
  { desk with diagnostics := desk.diagnostics.report level message }

/-- The desk with a report of a failure. -/
def reportFailure (desk : Desk) (failure : Failure) : Desk :=
  { desk with diagnostics := desk.diagnostics.reportFailure failure }

/-- Runs an operation that gives a new desk or fails. After a failure the desk is as before, with one
more report. -/
def reporting {α : Type} (operation : Desk → Except Failure (α × Desk)) :
    StateM Desk (Except Failure α) := fun desk =>
  match operation desk with
  | .ok (value, desk) => (.ok value, desk)
  | .error failure => (.error failure, desk.reportFailure failure)

/-- A display in progress. What was done before a failure stays done. -/
abbrev Display := ExceptT Failure (StateM Desk)

/-- The result of a display, or nothing and a report of what made it fail. -/
def degrade (display : Display String) : StateM Desk String := do
  match ← display.run with
  | .ok html => return html
  | .error failure =>
    modify (·.reportFailure failure)
    return ""

/-- The form of a name. -/
def form (desk : Desk) (name : String) : Except Failure Form :=
  match desk.forms.get? name with
  | some form => .ok form
  | none => .error (.configuration (.unknownForm name))

/-- The desk with a form put in place of the form of a name. -/
def putForm (desk : Desk) (name : String) (form : Form) : Desk :=
  { desk with forms := desk.forms.replace name form }

/-- The desk in words for developers. -/
def summary (desk : Desk) : String :=
  "FormManager \x7b forms: " ++ Text.bracketed (desk.forms.names.map Text.quoted)
    ++ ", connections: " ++ desk.connections.summary
    ++ ", processors: " ++ Decimal.natText desk.processors.size ++ ", .. \x7d"

/-! ## Defining forms -/

/-- The binding that options ask for, to a connection that there is. -/
def bind (desk : Desk) (options : LinkOptions) : Except Failure Binding := do
  let binding ← options.bind desk.settings.defaultConnection
  let _ ← desk.connections.resolve (some binding.connection)
  return binding

/-- A new form, linked to a table if options are given. -/
def newForm (desk : Desk) (name : String) (options : Option LinkOptions) : Except Failure Form :=
  let form := Form.named name desk.settings
  if desk.forms.contains form.name then .error (.duplicateName form.name)
  else
    match options with
    | none => .ok form
    | some options => (desk.bind options).map form.link

/-- Registers a new form and gives its name. A failure to make the form is reported, and one to
register it is not. -/
def create (name : String) (options : Option LinkOptions) : StateM Desk (Except Failure String) := do
  match ← reporting fun desk => (desk.newForm name options).map (·, desk) with
  | .error failure => return .error failure
  | .ok form => modifyGet fun desk =>
    match desk.forms.insert form with
    | .ok forms => (.ok form.name, { desk with forms })
    | .error failure => (.error failure, desk)

/-- Links a form to a table. -/
def link (name : String) (options : LinkOptions) : StateM Desk (Except Failure Binding) :=
  reporting fun desk => do
    let binding ← desk.bind options
    let form ← desk.form name
    return (binding, desk.putForm name (form.link binding))

/-- Removes a form, and says whether there was one. -/
def destroy (name : String) : StateM Desk Bool := do
  let known := (← get).forms.contains name
  modify fun desk => { desk with forms := desk.forms.erase name }
  return known

end Desk

end Formwork
