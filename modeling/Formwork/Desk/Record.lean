import Formwork.Desk.Basic

/-!
# Filling a form with a record

An update form starts with the values of a record. The record is selected by the columns of the
primary key that the options give; their values are parameters of the query and never part of its
text. A query that fails or selects nothing leaves the form as it is and is reported.
-/

namespace Formwork

/-- The columns of the primary key that options give a value for, in the order of the catalog. -/
def Form.givenKey (form : Form) (options : PageOptions) : PrimaryKey :=
  form.catalog.primaryNames.filterMap fun name =>
    (options.values.get? name).map fun value => (name, value)

/-- The form with values written into its fields, one after another. -/
def Form.setValues (form : Form) (values : List (String × String)) : Form :=
  let set := fun (catalog : Catalog) (named : String × String) =>
    catalog.modifyField named.1 fun field => { field with value := named.2 }
  { form with catalog := values.foldl set form.catalog }

/-- The values of a row as forms show them. -/
def Row.formValues (row : Row) : List (String × String) :=
  row.cells.map fun cell => (cell.1, cell.2.formText)

/-- The statement that selects one record by the given columns. -/
def Select.record (table : String) (quote : String → String) (columns : List String) : Select :=
  let equations := columns.map fun column => quote column ++ " = ?"
  { table, condition := some (Text.joinWith " AND " equations), limit := some "1" }

namespace Desk

/-- The query that selects a record by a key. -/
def recordQuery (connection : Connection) (binding : Binding) (key : PrimaryKey) : Query :=
  let quote := quoteIdentifier connection.quotationMark
  { connection := binding.connection
    sql := (Select.record binding.table quote (key.map (·.1))).sql quote
    parameters := key.map fun column => Cell.text column.2 }

/-- Asks a connection for the record with a key. -/
def askRecord (connection : Connection) (binding : Binding) (key : PrimaryKey) :
    Display (Option Row) := do
  let query := recordQuery connection binding key
  let earlier := (← get).queries
  modify fun desk => { desk with queries := desk.queries ++ [query] }
  match connection.answerTo earlier query with
  | .ok (row :: _) => return some row
  | .ok [] =>
    modify (·.report .debug s!"No record in '{binding.table}' matches the update keys")
    return none
  | .error failure =>
    modify (·.report .high s!"SQL Error: {failure.message} ({query.sql})")
    return none

/-- Fills a form with the record that the options select. The given key itself is written into the
form in any case. -/
def fillRecord (name : String) (options : PageOptions) : Display Unit := do
  let form ← (← get).form name
  let key := form.givenKey options
  let form := form.setValues key
  modify (·.putForm name form)
  match form.binding with
  | none => return
  | some binding =>
    if key = [] then return
    let connection ← (← get).connections.resolve (some binding.connection)
    match ← askRecord connection binding key with
    | some row => modify (·.putForm name (form.setValues row.formValues))
    | none => return

end Desk

end Formwork
