import Formwork.Desk.Assets
import Formwork.Desk.Record
import Formwork.Desk.Saved

/-!
# Displaying forms

A display never fails: what goes wrong is reported, and the output is empty. Forms for a record are
saved before their page is written, and tables afterwards, so that the identifiers of the displayed
rows are saved with them.
-/

namespace Formwork.Desk

/-- Writes the page of a form. -/
def writePage (name : String) (kind : FormKind) (formId : String) (options : PageOptions) :
    Display String := do
  let desk ← get
  let form ← desk.form name
  let chosen := options.template.getD (form.template kind)
  let template ← desk.templates.loadVariant chosen kind.variant
  let request : Request :=
    { kind, formId, options, connections := desk.connections, issuer := desk.issuer
      submission := desk.submission }
  let start : Page :=
    { form, diagnostics := desk.diagnostics, issued := desk.issued, queries := desk.queries }
  let (html, page) := (Page.render request template).run start
  set { desk.putForm name page.form with
    diagnostics := page.diagnostics, issued := page.issued, queries := page.queries }
  return html

/-- The form of a name, with a button that submits it. -/
def formToShow (name : String) : Display Form := do
  let form ← (← get).form name
  let form ← form.ensureSubmit
  modify (·.putForm name form)
  return form

/-- Saves a form and gives its identifier. -/
def saveShown (form : Form) (kind : FormKind) : Display String := do
  let (id, desk) ← (← get).saveSnapshot form.snapshot kind
  set desk
  return id

/-- Displays the form for one record. -/
def showRecord (name : String) (kind : FormKind) (options : PageOptions) : Display String := do
  let form ← formToShow name
  let id ← saveShown form kind
  writePage name kind id options

/-- The options of a table, which tell scripts how rows are inserted. -/
def tableOptions (form : Form) (options : PageOptions) : PageOptions :=
  let url := options.insertFormUrl.or form.insertFormUrl
  let callback := options.insertFormCallback.or form.insertFormCallback
  { options with
    dataAttributes :=
      Page.setGiven "insert-form-callback" callback
        (Page.setGiven "insert-form-url" url options.dataAttributes) }

/-- Displays the form for a table. -/
def showTable (name : String) (options : PageOptions) : Display String := do
  let form ← formToShow name
  let html ← writePage name .table (← get).nextIdentifier (tableOptions form options)
  let _ ← saveShown (← (← get).form name) .table
  return html

/-- Displays an update form. -/
def displayUpdate (name : String) (options : PageOptions) : StateM Desk String :=
  degrade do
    fillRecord name options
    showRecord name .update options

/-- Displays an insert form, or an update form if the options name a record. -/
def displayInsert (name : String) (options : PageOptions) : StateM Desk String :=
  if options.values.contains "id" then displayUpdate name options
  else degrade (showRecord name .insert options)

/-- Displays a table. -/
def displayTable (name : String) (options : PageOptions) : StateM Desk String :=
  degrade (showTable name options)

/-- Displays in the way that a word asks for. -/
def display (name way : String) (options : PageOptions) : StateM Desk String :=
  match (Text.trim way).toLower with
  | "insert" | "insertform" | "update" | "updateform" => displayInsert name options
  | "edit" | "edittable" => displayTable name options
  | "assets" => showAssets
  | "errors" => return (← get).diagnostics.html
  | _ => degrade (throw (.unknownDisplay way))

/-- Displays what a tag asks for. Attributes that are no options are values. -/
def displayTag (attributes : Attributes) : StateM Desk String :=
  let options := PageOptions.ofAttributes attributes
  let name := (options.values.get? "name").getD ""
  let way := (options.values.get? "display").getD "insert"
  display name way { options with values := (options.values.erase "name").erase "display" }

end Formwork.Desk
