import Formwork.Form.Widget

/-!
# Catalogs of fields

The fields of a form, in order. A field is added only under a name that, trimmed, is neither blank
nor the name of a field already there; it keeps its name as given.
-/

namespace Formwork

/-- The fields of a form, in order. -/
structure Catalog where
  /-- The widgets of the fields. -/
  widgets : List Widget := []
deriving DecidableEq

namespace Catalog

/-- No fields. -/
def empty : Catalog := {}

/-- The descriptions of the fields. -/
def fields (catalog : Catalog) : List Field := catalog.widgets.map (·.field)

/-- The names of the fields. -/
def names (catalog : Catalog) : List String := catalog.fields.map (·.name)

/-- The widget of the first field with the given name. -/
def get? (catalog : Catalog) (name : String) : Option Widget :=
  catalog.widgets.find? fun widget => widget.field.name = name

/-- There is a field with the given name. -/
def contains (catalog : Catalog) (name : String) : Bool := (catalog.get? name).isSome

/-- The catalog with one more field at its end. -/
def add (catalog : Catalog) (widget : Widget) : Except Failure Catalog :=
  let name := Text.trim widget.field.name
  if name = "" then .error (.configuration .emptyFieldName)
  else if catalog.contains name then .error (.configuration (.fieldDefined name))
  else .ok ⟨catalog.widgets ++ [widget]⟩

/-- The catalog of descriptions, each made into a widget and added in order. -/
def ofFields (make : Field → Widget) (fields : List Field) : Except Failure Catalog :=
  fields.foldlM (fun catalog field => catalog.add (make field)) empty

/-- The catalog without the first field of the given name. -/
def erase (catalog : Catalog) (name : String) : Catalog :=
  ⟨catalog.widgets.eraseP fun widget => widget.field.name = name⟩

/-- Changes the first widget of the given name in a list. -/
def modifyFirst (name : String) (change : Widget → Widget) : List Widget → List Widget
  | [] => []
  | widget :: rest =>
    if widget.field.name = name then change widget :: rest
    else widget :: modifyFirst name change rest

/-- Changes the first widget of the given name. -/
def modify (catalog : Catalog) (name : String) (change : Widget → Widget) : Catalog :=
  ⟨modifyFirst name change catalog.widgets⟩

/-- Changes the description of the first field of the given name. -/
def modifyField (catalog : Catalog) (name : String) (change : Field → Field) : Catalog :=
  catalog.modify name fun widget => { widget with field := change widget.field }

/-- Says whether the first field of the given name can be changed. -/
def setDisabled (catalog : Catalog) (name : String) (disabled : Bool) : Except Failure Catalog :=
  if catalog.contains name then
    .ok (catalog.modifyField name fun field => { field with disabled })
  else .error (.unknownField name)

/-- The names of the fields of the primary key. -/
def primaryNames (catalog : Catalog) : List String :=
  (catalog.fields.filter (·.primary)).map (·.name)

/-- The names in the order of display. If fields that can be changed come first, both groups keep
the order of the catalog. -/
def sortedNames (catalog : Catalog) (editableFirst : Option Bool) : List String :=
  if editableFirst = some true then
    let (readOnly, editable) := catalog.fields.partition (·.isReadOnly)
    (editable ++ readOnly).map (·.name)
  else catalog.names

/-- Some field is put in the given way. -/
def hasInput (catalog : Catalog) (input : InputKind) : Bool :=
  catalog.fields.any fun field => field.input = input

/-- The number of fields. -/
def size (catalog : Catalog) : Nat := catalog.widgets.length

/-- There are no fields. -/
def isEmpty (catalog : Catalog) : Bool := catalog.widgets.isEmpty

end Catalog

end Formwork
