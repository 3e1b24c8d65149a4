import Formwork.Form.Basic
import Formwork.Json.Printer
import Formwork.Json.Reader

/-!
# Saved forms

A snapshot is a form as plain data: the descriptions of its fields, its table by the name of the
connection, and what its pages need. What is stored when a form is displayed is the text of its
snapshot together with the kind it was displayed for.
-/

namespace Formwork

/-- A form as plain data. -/
structure Snapshot where
  /-- The name of the form. -/
  name : String
  /-- The descriptions of its fields, in order. -/
  fields : List Field
  /-- The table. -/
  binding : Option Binding
  /-- The template set for single records. -/
  insertTemplate : String
  /-- The template set for tables. -/
  editTemplate : String
  /-- The address that the form is posted to. -/
  action : Option String
  /-- How the browser encodes what it posts. -/
  encoding : Option String
  /-- The browser checks inputs before they are sent. -/
  browserValidation : Bool
  /-- The address that gives rows for insertion into a table. -/
  insertFormUrl : Option String
  /-- The script function that takes such rows. -/
  insertFormCallback : Option String
  /-- The primary keys of displayed rows. -/
  rowKeys : TextMap PrimaryKey

/-- The form as plain data. -/
def Form.snapshot (form : Form) : Snapshot :=
  { name := form.name
    fields := form.catalog.fields
    binding := form.binding
    insertTemplate := form.insertTemplate
    editTemplate := form.editTemplate
    action := form.action
    encoding := form.encoding
    browserValidation := form.browserValidation
    insertFormUrl := form.insertFormUrl
    insertFormCallback := form.insertFormCallback
    rowKeys := form.rowKeys }

namespace Snapshot

/-- The form that a snapshot was taken of, with widgets made anew. -/
def restore (snapshot : Snapshot) (make : Field → Widget) : Except Failure Form :=
  (Catalog.ofFields make snapshot.fields).map fun catalog =>
    { name := snapshot.name
      catalog
      binding := snapshot.binding
      insertTemplate := snapshot.insertTemplate
      editTemplate := snapshot.editTemplate
      action := snapshot.action
      encoding := snapshot.encoding
      browserValidation := snapshot.browserValidation
      insertFormUrl := snapshot.insertFormUrl
      insertFormCallback := snapshot.insertFormCallback
      rowKeys := snapshot.rowKeys }

/-- The snapshot as a JSON document. -/
def toJson (snapshot : Snapshot) : Json :=
  .object [
    ("name", .string snapshot.name),
    ("fields", .array (snapshot.fields.map Field.toJson)),
    ("db_binding", (snapshot.binding.map Binding.toJson).getD .null),
    ("insert_form_template", .string snapshot.insertTemplate),
    ("edit_table_template", .string snapshot.editTemplate),
    ("form_action", Json.ofText? snapshot.action),
    ("form_encoding", Json.ofText? snapshot.encoding),
    ("browser_validation", .bool snapshot.browserValidation),
    ("insert_form_url", Json.ofText? snapshot.insertFormUrl),
    ("insert_form_callback", Json.ofText? snapshot.insertFormCallback),
    ("edit_table_row_data", Json.ofMap Json.ofPairs snapshot.rowKeys)]

/-- The names of the members of a saved snapshot. -/
def memberNames : List String :=
  ["name", "fields", "db_binding", "insert_form_template", "edit_table_template", "form_action",
   "form_encoding", "browser_validation", "insert_form_url", "insert_form_callback",
   "edit_table_row_data"]

/-- Reads a snapshot from a JSON document. -/
def ofJson (json : Json) : Except Json.Fault Snapshot := do
  let members ← Json.asRecord memberNames .refused json
  return {
    name := ← Json.required Json.asText "name" members
    fields := ← Json.required (Json.asList Field.ofJson) "fields" members
    binding := ← Json.optional Binding.ofJson "db_binding" members
    insertTemplate := ← Json.required Json.asText "insert_form_template" members
    editTemplate := ← Json.required Json.asText "edit_table_template" members
    action := ← Json.optional Json.asText "form_action" members
    encoding := ← Json.optional Json.asText "form_encoding" members
    browserValidation := ← Json.required Json.asFlag "browser_validation" members
    insertFormUrl := ← Json.optional Json.asText "insert_form_url" members
    insertFormCallback := ← Json.optional Json.asText "insert_form_callback" members
    rowKeys := ← Json.required (Json.asMap (Json.asList Json.asTextPair)) "edit_table_row_data"
      members }

/-- The snapshot as text. -/
def encode (snapshot : Snapshot) : String := snapshot.toJson.print

/-- Reads a snapshot from text. -/
def decode (text : String) : Except Json.Fault Snapshot :=
  match Json.read? text with
  | some json => ofJson json
  | none => .error .malformed

end Snapshot

/-- What is stored when a form is displayed. -/
structure SavedForm where
  /-- The text of the snapshot. -/
  encoded : String
  /-- What the form was displayed for. -/
  kind : FormKind
deriving DecidableEq

namespace SavedForm

/-- What is stored for a snapshot. -/
def ofSnapshot (snapshot : Snapshot) (kind : FormKind) : SavedForm := ⟨snapshot.encode, kind⟩

/-- The stored document. -/
def toJson (saved : SavedForm) : Json :=
  .object [("formBuilder", .string saved.encoded), ("formType", saved.kind.toJson)]

/-- Reads what was stored. -/
def ofJson (json : Json) : Except Json.Fault SavedForm := do
  let members ← Json.asRecord ["formBuilder", "formType"] .refused json
  return {
    encoded := ← Json.required Json.asText "formBuilder" members
    kind := ← Json.required FormKind.ofJson "formType" members }

/-- The snapshot that was stored. -/
def snapshot (saved : SavedForm) : Except Json.Fault Snapshot := Snapshot.decode saved.encoded

end SavedForm

end Formwork
