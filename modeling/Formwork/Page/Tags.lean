import Formwork.Page.State

/-!
# Single tags

The tags that stand for something on their own: the title, the start and end of the form, all fields
or one, field sets and counters. A tag that is none of these is left as it stands, so that another
reader of the page can still find it.
-/

namespace Formwork.Page

/-- What a tag for all fields can ask for. -/
def fieldsDisplays : List String := ["full", "fields", "labels", "hidden"]

/-- A hidden input of the form itself. -/
def ownInput (name value : String) : String :=
  "<input type=\"hidden\" name=\"" ++ name ++ "\" value=\"" ++ Html.escape value ++ "\">"

/-- Sets an attribute that may be absent. -/
def setGiven (name : String) (value : Option String) (attributes : Attributes) : Attributes :=
  match value with
  | some value => attributes.set name value
  | none => attributes

/-- The start tag of the form. Where it is posted to is said by the options, else by the tag, else by
the form; the method is always the same. -/
def formTag (request : Request) (form : Form) (attributes : Attributes) : String :=
  let options := request.options
  let own :=
    setGiven "novalidate" (if form.browserValidation then none else some "")
      (setGiven "rev" options.rev (setGiven "rel" options.rel attributes))
  let base :=
    setGiven "enctype" form.encoding ((options.formAttributes.erase "action").erase "method")
  let merged := base.merge ((own.erase "action").erase "method")
  let data := options.dataAttributes.pairs.map fun (name, value) => ("data-" ++ name, value)
  let action := (options.action.or (own.get? "action")).or form.action
  "<form" ++ (action.map (Html.attributeText "action")).getD "" ++ " method=\"post\""
    ++ Html.attributesText merged.pairs ++ Html.attributesText data ++ ">"

/-- Writes the start of the form: its tag, the inputs by which it is known when it comes back, and if
the tag asks for it the hidden fields not emitted before. -/
def writeFormStart (request : Request) (attributes : Attributes) : StateM Page String := do
  let withHidden := ((attributes.get? "hidden").bind Text.truth?).getD false
  let page ← get
  let start :=
    if request.options.noFormTag then ""
    else formTag request page.form (attributes.erase "hidden")
  let pair := request.issuer (page.issued + 1)
  set { page with issued := page.issued + 1 }
  let known := ownInput "__formID" request.formId ++ ownInput "__csrfID" pair.id
    ++ ownInput "__csrfToken" pair.token
  let hidden := (page.form.catalog.fields.filter fun field =>
    field.isHidden && !page.isEmitted field.name).map (·.name)
  let inputs ← if withHidden then writeAll hidden (writeWhole request) else pure ""
  return start ++ known ++ inputs

/-- Writes one of the fields that a tag for all fields stands for. -/
def writeListed (request : Request) (display : String) (layout : Option String) (name : String) :
    StateM Page String := do
  match ← present request name with
  | none => return ""
  | some widget =>
    markEmitted name
    match display with
    | "fields" => return widget.inputHtml .empty
    | "labels" => return widget.labelHtml .empty
    | _ => return widget.html layout .empty

/-- Writes the fields not emitted before. -/
def writeFields (request : Request) (attributes : Attributes) : StateM Page String := do
  let display := displayOf attributes
  if !fieldsDisplays.contains display then
    report .debug ("Invalid 'display' for \x7bfields\x7d: '" ++ display
      ++ "' (only full|fields|labels|hidden are valid)")
    return ""
  let page ← get
  let fields := page.form.catalog.fields.filter fun field =>
    (display ≠ "hidden" || field.isHidden) && field.isShownIn request.kind
      && !page.isEmitted field.name
  writeAll (fields.map (·.name)) (writeListed request display (layoutOf attributes))

/-- Writes the field that a tag names. A whole field that was emitted before is left out. -/
def writeNamed (request : Request) (mark : Tag) : StateM Page String := do
  let attributes := mark.attributes
  let name := (attributes.get? "name").getD ""
  let page ← get
  if name = "" then
    report .debug "'name' is required for \x7bfield\x7d tags"
    return ""
  else if !page.form.catalog.contains name then
    report .debug (Failure.unknownField name).message
    return ""
  else if displayOf attributes = "full" && page.isEmitted name then
    report .debug s!"Field '{name}' was already rendered"
    return ""
  else
    let html ← writeField request mark.source name attributes none
    markEmitted name
    return html

/-- Writes what a tag stands for. -/
def writeTag (request : Request) (mark : Tag) : StateM Page String := do
  match mark.key with
  | "formtitle" => return request.options.title.getD ""
  | "form" => writeFormStart request mark.attributes
  | "/form" => return if request.options.noFormTag then "" else "</form>"
  | "fields" => writeFields request mark.attributes
  | "field" => writeNamed request mark
  | "fieldset" =>
    let legend := (mark.attributes.get? "legend").getD ""
    return "<fieldset><legend>" ++ Html.escape legend ++ "</legend>"
  | "/fieldset" => return "</fieldset>"
  | "rowcount" => return Decimal.natText (← get).rowCount
  | "fieldcount" => return Decimal.natText (← get).fieldCount
  | _ => return mark.source

/-- Writes what the single tags of a text stand for. -/
def writeTags (request : Request) (source : String) : StateM Page String :=
  writeAll (Token.tokenize source) fun
    | .text content => return content
    | .tag mark => writeTag request mark

end Formwork.Page
