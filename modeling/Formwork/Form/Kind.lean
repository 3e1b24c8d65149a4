import Formwork.Failure

/-!
# Kinds of form

What a form is displayed or processed for.
-/

namespace Formwork

/-- What a form is for. -/
inductive FormKind where
  /-- Inserting one record. -/
  | insert
  /-- Updating one record. -/
  | update
  /-- Editing the rows of a table. -/
  | table
deriving DecidableEq, Repr

namespace FormKind

/-- The name of the kind. -/
def name : FormKind → String
  | .insert => "insertForm"
  | .update => "updateForm"
  | .table => "editTable"

/-- The kind with exactly the given name. -/
def ofName? (name : String) : Option FormKind :=
  [FormKind.insert, .update, .table].find? fun kind => kind.name = name

/-- The kind meant by a word, in any case of letters; records may be named in short. -/
def parse (word : String) : Except Failure FormKind :=
  match (Text.trim word).toLower with
  | "insertform" | "insert" => .ok .insert
  | "updateform" | "update" => .ok .update
  | "edittable" => .ok .table
  | other => .error (.unknownDisplay other)

/-- The template variant that the kind is displayed with. -/
def variant : FormKind → Variant
  | .table => .edit
  | .insert | .update => .insert

/-- The kind as a JSON document. -/
def toJson (kind : FormKind) : Json := .string kind.name

/-- Reads a kind from a JSON document. -/
def ofJson : Json.Decoder FormKind := Json.asName ofName?

end FormKind

end Formwork
