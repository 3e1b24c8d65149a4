import Formwork.Data.Connections
import Formwork.Diagnostics
import Formwork.Form.Basic
import Formwork.Page.Options
import Formwork.Session.Csrf
import Formwork.Submission
import Formwork.Template.Tree

/-!
# A page while it is written

A page is written for one request. What changes on the way is the state of the page: the form, whose
fields learn where they are shown, the reports, and the list of fields emitted so far, which keeps a
field from being emitted twice. Tokens and queries are counted and listed, so that what was issued
and asked can be told from the state.
-/

namespace Formwork

/-- What a page is written for. -/
structure Request where
  /-- What the form is for. -/
  kind : FormKind
  /-- The identifier that the form will be sent back with. -/
  formId : String
  /-- The options of this display. -/
  options : PageOptions := {}
  /-- The database connections. -/
  connections : Connections
  /-- The tokens of opened forms. -/
  issuer : CsrfIssuer
  /-- What was posted with the request. -/
  submission : Submission := .empty

/-- A page while it is written. -/
structure Page where
  /-- The form. -/
  form : Form
  /-- The reports. -/
  diagnostics : Diagnostics := .empty
  /-- The names of the fields emitted so far, in order. -/
  emitted : List String := []
  /-- The number of rows of the last row loop. -/
  rowCount : Nat := 0
  /-- The number of field tags in each row of the last row loop. -/
  fieldCount : Nat := 0
  /-- The number of tokens issued. -/
  issued : Nat := 0
  /-- The queries run, in order. -/
  queries : List Query := []

namespace Page

/-- The field was emitted. -/
def isEmitted (page : Page) (name : String) : Bool := page.emitted.contains name

/-- Reports something. -/
def report (level : Level) (message : String) : StateM Page Unit :=
  modify fun page => { page with diagnostics := page.diagnostics.report level message }

/-- Notes that a field was emitted. -/
def markEmitted (name : String) : StateM Page Unit :=
  modify fun page =>
    if page.isEmitted name then page else { page with emitted := page.emitted ++ [name] }

/-- The texts written for the items of a list, in order. -/
def writeAll {α : Type} (items : List α) (write : α → StateM Page String) : StateM Page String :=
  return String.join (← items.mapM write)

/-- The widget of a field, which learns that it is shown in this request. -/
def present (request : Request) (name : String) : StateM Page (Option Widget) := do
  modify fun page =>
    { page with
      form.catalog := page.form.catalog.modify name fun widget =>
        { widget with shownIn := some request.kind, formId := some request.formId } }
  return (← get).form.catalog.get? name

/-- What a tag asks to be shown of a field; the whole field if it does not say. -/
def displayOf (attributes : Attributes) : String :=
  ((attributes.get? "display").map fun display => (Text.trim display).toLower).getD "full"

/-- The layout that a tag asks for. -/
def layoutOf (attributes : Attributes) : Option String :=
  (attributes.get? "template").map fun layout => (Text.trim layout).toLower

/-- Writes what a tag asks for of a field. Its value is the given one, or else what was posted for
the field, or else the field's own. A tag that asks for something unknown is left as it stands. -/
def writeField (request : Request) (source name : String) (attributes : Attributes)
    (value : Option String) : StateM Page String := do
  let attributes :=
    match value.or (request.submission.value? name) with
    | some value => attributes.set "value" value
    | none => attributes
  match ← present request name with
  | none =>
    report .debug (Failure.unknownField name).message
    return ""
  | some widget =>
    match displayOf attributes with
    | "full" => return widget.html (layoutOf attributes) attributes
    | "field" => return widget.inputHtml attributes
    | "label" => return widget.labelHtml attributes
    | other =>
      report .debug s!"Invalid 'display' for field '{name}': '{other}' (only full|field|label are valid)"
      return source

/-- Writes a whole field without tag attributes and notes that it was emitted. -/
def writeWhole (request : Request) (name : String) : StateM Page String := do
  let html ← writeField request "" name .empty none
  markEmitted name
  return html

end Page

end Formwork
