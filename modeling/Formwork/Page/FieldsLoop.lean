import Formwork.Page.State

/-!
# Loops over fields

A fields loop stands for the fields of the form that were not emitted before. Hidden fields are
written at once; for every other field the body of the loop is repeated, with the first field tag
that has no name given the name of the field. What a named tag stands for is settled later.
-/

namespace Formwork.Page

/-- Gives the first opening field tag without a name the given name. -/
def nameFirst (name : String) : List Token → List Token
  | [] => []
  | .text content :: rest => .text content :: nameFirst name rest
  | .tag mark :: rest =>
    if mark.opens "field" && ((mark.attributes.get? "name").getD "" = "") then
      .tag (mark.withAttributes (mark.attributes.set "name" name)) :: rest
    else .tag mark :: nameFirst name rest

/-- The body of a loop for one field. -/
def nameFirstTag (body name : String) : String :=
  Token.sources (nameFirst name (Token.tokenize body))

/-- The loop lists the field; a loop without a list takes every field. -/
def isListed (attributes : Attributes) (name : String) : Bool :=
  match attributes.get? "list" with
  | some list => (Text.commaList list).contains name
  | none => true

/-- The loop writes hidden fields, unless its tag says no. A word that is no truth value says
neither. -/
def showsHidden (attributes : Attributes) : Bool :=
  match attributes.get? "showHidden" with
  | some word => Text.truth? word ≠ some false
  | none => true

/-- The loop takes fields that can be changed first. -/
def editableFirst (attributes : Attributes) : Option Bool :=
  (attributes.get? "editStrip").bind Text.truth?

/-- The hidden fields that a loop writes. -/
def loopHidden (request : Request) (attributes : Attributes) (page : Page) : List String :=
  let fields := page.form.catalog.fields.filter fun field =>
    field.isHidden && isListed attributes field.name && field.isShownIn request.kind
      && !page.isEmitted field.name
  fields.map (·.name)

/-- The other fields that a loop stands for. -/
def loopVisible (request : Request) (attributes : Attributes) (page : Page) : List String :=
  (page.form.catalog.sortedNames (editableFirst attributes)).filter fun name =>
    (page.form.catalog.get? name).any (fun widget =>
      !widget.field.isHidden && widget.field.isShownIn request.kind)
    && isListed attributes name && !page.isEmitted name

/-- Writes one fields loop. -/
def writeFieldsLoop (request : Request) (attributes : Attributes) (body : String) :
    StateM Page String := do
  let hidden ←
    if showsHidden attributes then
      writeAll (loopHidden request attributes (← get)) (writeWhole request)
    else pure ""
  let visible := loopVisible request attributes (← get)
  return hidden ++ String.join (visible.map (nameFirstTag body))

/-- Writes the fields loops of a section. -/
def writeFieldsLoops (request : Request) (source : String) : StateM Page String :=
  writeAll (Node.parse ["fieldsLoop"] source) fun
    | .section opening children _ =>
      writeFieldsLoop request opening.attributes (Text.trim (Node.sources children))
    | node => return node.source

end Formwork.Page
