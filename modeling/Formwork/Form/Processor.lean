import Formwork.Form.Basic
import Formwork.Submission

/-!
# Collecting posted values

A processor knows the table of a form that was displayed, what it was displayed for, its fields and
the primary keys of its rows. From posted data it collects the column values of one record, or of
every displayed row that something was posted for. Columns of the primary key of a row come from what
was noted when the row was displayed, never from what was posted.
-/

namespace Formwork

/-- Column values by column. -/
abbrev Columns := TextMap String

/-- What was collected. -/
inductive Collected where
  /-- The column values of one record. -/
  | record (columns : Columns)
  /-- The column values of rows, by row identifier. -/
  | rows (rows : TextMap Columns)

/-- Collects the posted values of one displayed form. -/
structure Processor where
  /-- The table. -/
  table : String
  /-- The name of the connection. -/
  connection : String
  /-- What the form was displayed for. -/
  kind : FormKind := .insert
  /-- The fields, in order. -/
  fields : List Field := []
  /-- The primary keys of displayed rows. -/
  rowKeys : TextMap PrimaryKey := .empty

namespace Processor

/-- Puts a field in the place of the field of the same name, or at the end. -/
def putField (field : Field) : List Field → List Field
  | [] => [field]
  | other :: rest =>
    if other.name = field.name then field :: rest else other :: putField field rest

/-- The processor with one more field; a field of the same name is replaced. -/
def addField (processor : Processor) (field : Field) : Processor :=
  { processor with fields := putField field processor.fields }

/-- The processor of a form that is bound to a table. -/
def ofForm (form : Form) (binding : Binding) (kind : FormKind) : Processor :=
  let bare : Processor :=
    { table := binding.table, connection := binding.connection, kind, rowKeys := form.rowKeys }
  form.catalog.fields.foldl addField bare

/-- Posted values under these names are never stored. -/
def reservedNames : List String := ["engineCSRFCheck", "submit"]

/-- The fields whose values are stored. -/
def storedFields (processor : Processor) : List Field :=
  processor.fields.filter fun field =>
    !field.input.isDisplayOnly && !reservedNames.contains field.name

/-- The column values of one record. -/
def collectRecord (processor : Processor) (submission : Submission) : Columns :=
  .ofList (processor.storedFields.filterMap fun field =>
    (submission.value? field.name).map fun value => (field.name, value))

/-- Adds the value posted for a field in one row, if the row was displayed. -/
def collectCell (processor : Processor) (submission : Submission) (field : Field)
    (rows : TextMap Columns) (rowId : String) : TextMap Columns :=
  match processor.rowKeys.contains rowId, submission.rowValue? field.name rowId with
  | true, some value =>
    rows.insert rowId (((rows.get? rowId).getD .empty).insert field.name value)
  | _, _ => rows

/-- Adds the values posted for a field in all rows. -/
def collectColumn (processor : Processor) (submission : Submission) (rows : TextMap Columns)
    (field : Field) : TextMap Columns :=
  (submission.rowIds field.name).foldl (processor.collectCell submission field) rows

/-- Lays the primary keys of rows over the columns collected for them. -/
def addKeys (processor : Processor) (rows : TextMap Columns) : TextMap Columns :=
  .ofList (rows.entries.map fun (rowId, columns) =>
    (rowId, columns.insertAll ((processor.rowKeys.get? rowId).getD [])))

/-- The column values of rows. -/
def collectRows (processor : Processor) (submission : Submission) : TextMap Columns :=
  let fields := processor.storedFields.filter fun field => !field.primary
  processor.addKeys (fields.foldl (processor.collectColumn submission) .empty)

/-- The posted values. -/
def collect (processor : Processor) (submission : Submission) : Collected :=
  match processor.kind with
  | .table => .rows (processor.collectRows submission)
  | .insert | .update => .record (processor.collectRecord submission)

end Processor

end Formwork
