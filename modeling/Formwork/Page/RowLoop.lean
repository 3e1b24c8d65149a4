import Formwork.Page.State
import Formwork.Text.Letter

/-!
# Loops over rows

A row loop repeats its body for every row of the form's table. The field tags of the body are renamed
to `name[row]`, where the row's identifier is a digest of its primary key, and the key is noted on
the form so that posted rows can be found again. Without a table, a connection or an answer to the
query the loop writes nothing or a notice; a query that gives no rows ends the whole section.
-/

namespace Formwork.Page

/-- What a section without rows shows. -/
def noRecords : String := "No records found"

/-- What becomes of a token of the body in one row. -/
inductive RowPart where
  /-- Text that is settled. -/
  | settled (text : String)
  /-- A field of plain text, which is written after the other fields of the row. -/
  | late (source name : String) (attributes : Attributes)

/-- Notes the cells of a row on the fields of the same names. -/
def noteCells (row : Row) : StateM Page Unit :=
  modify fun page =>
    { page with
      form.catalog := row.cells.foldl (fun catalog (column, cell) =>
        catalog.modifyField column fun field => { field with renderedValue := some cell.formText })
        page.form.catalog }

/-- The primary key of a row: the fields of the key that are columns, with their values. -/
def keyOf (form : Form) (row : Row) : PrimaryKey :=
  form.catalog.primaryNames.filterMap fun name =>
    (row.get? name).map fun cell => (name, cell.formText)

/-- The key that identifies a row by its position, in a form without a primary key. -/
def positionKey (position : Nat) : PrimaryKey := [("#row", "#" ++ Decimal.natText position)]

/-- Notes the cells and the primary key of a row and gives the row's identifier. A position is given
if the form has no primary key. -/
def recordRow (row : Row) (position : Option Nat) : StateM Page String := do
  noteCells row
  let key := keyOf (← get).form row
  let rowId := Form.rowIdentifier ((position.map positionKey).getD key)
  modify fun page => { page with form := page.form.recordRow rowId key }
  return rowId

/-- The body with the row's identifier filled in. -/
def fillRowId (rowId body : String) : String :=
  String.join ((Token.tokenize body).map fun
    | .tag mark => if mark.opens "rowLoopID" then rowId else mark.source
    | .text content => content)

/-- The name of the field that a tag in a row stands for, if it is a word. -/
def rowFieldName? (mark : Tag) : Option String :=
  if mark.opens "field" then (mark.attributes.get? "name").filter Text.isWord else none

/-- Settles one token of a row, unless it is a field of plain text. -/
def settlePart (request : Request) (row : Row) (rowId : String) :
    Token → StateM Page RowPart
  | .text content => return .settled content
  | .tag mark =>
    match rowFieldName? mark with
    | none => return .settled mark.source
    | some name => do
      let attributes := mark.attributes.set "name" (name ++ "[" ++ rowId ++ "]")
      let source := (mark.withAttributes attributes).source
      match (← get).form.catalog.get? name with
      | none =>
        report .debug (Failure.unknownField name).message
        return .settled ""
      | some widget =>
        if widget.field.input = .plaintext then return .late source name attributes
        else
          let cell := ((row.get? name).map Cell.formText).getD ""
          let value := (request.submission.rowValue? name rowId).getD cell
          return .settled (← writeField request source name attributes (some value))

/-- Writes what was left for later. -/
def finishPart (request : Request) : RowPart → StateM Page String
  | .settled text => return text
  | .late source name attributes => writeField request source name attributes none

/-- The number of field tags that a row's tokens hold. -/
def countFields (tokens : List Token) : Nat :=
  (tokens.filter fun
    | .tag mark => (rowFieldName? mark).isSome
    | .text _ => false).length

/-- Writes the body for one row. -/
def writeRow (request : Request) (body : String) (row : Row) (rowId : String) :
    StateM Page String := do
  let tokens := Token.tokenize (fillRowId rowId body)
  let parts ← tokens.mapM (settlePart request row rowId)
  let written ← writeAll parts (finishPart request)
  modify fun page => { page with fieldCount := countFields tokens }
  return written

/-- Writes the body for rows at and behind a position. Identifiers of rows written before are given;
a row that shares one is reported. -/
def writeRows (request : Request) (body table : String) (keyed : Bool) :
    Nat → List String → List Row → StateM Page String
  | _, _, [] => return ""
  | position, seen, row :: rest => do
    let rowId ← recordRow row (if keyed then none else some position)
    if seen.contains rowId then
      report .warning
        s!"Duplicate primary key values in table '{table}': rows share identifier {rowId}"
    let written ← writeRow request body row rowId
    return written ++ (← writeRows request body table keyed (position + 1) (rowId :: seen) rest)

/-- The text with the counters of the last row loop filled in. -/
def fillCounters (rowCount fieldCount : Nat) (text : String) : String :=
  String.join ((Token.tokenize text).map fun
    | .tag mark =>
      if mark.opens "rowCount" then Decimal.natText rowCount
      else if mark.opens "fieldCount" then Decimal.natText fieldCount
      else mark.source
    | .text content => content)

/-- The query for the rows of a table. -/
def rowsQuery (connection : Connection) (binding : Binding) : Query :=
  { connection := binding.connection
    sql := binding.select.sql (quoteIdentifier connection.quotationMark) }

/-- Runs a query, which is listed. -/
def runQuery (connection : Connection) (query : Query) :
    StateM Page (Except Failure (List Row)) := do
  let earlier := (← get).queries
  modify fun page => { page with queries := page.queries ++ [query] }
  return connection.answerTo earlier query

/-- Writes the body for the rows of an answer that has some. -/
def writeAnswer (request : Request) (body : String) (binding : Binding) (rows : List Row) :
    StateM Page String := do
  modify fun page => { page with rowCount := rows.length }
  let form := (← get).form
  let keyed := !form.catalog.primaryNames.isEmpty
  if !keyed then
    report .debug s!"Form '{form.name}' has no primary fields; rows are identified by position"
  let written ← writeRows request body binding.table keyed 0 [] rows
  let page ← get
  return fillCounters page.rowCount page.fieldCount written

/-- Writes one row loop. -/
def writeRowLoop (request : Request) (body : String) : StateM Page (Except Failure String) := do
  modify fun page => { page with rowCount := 0, fieldCount := 0 }
  let form := (← get).form
  match form.binding with
  | none =>
    report .debug
      s!"No database table for the row loop of form '{form.name}' (link it to a database first)"
    return .ok ""
  | some binding =>
    match request.connections.resolve (some binding.connection) with
    | .error failure =>
      report .debug s!"Database connection failed to establish: {failure.message}"
      return .ok ""
    | .ok connection =>
      let query := rowsQuery connection binding
      match ← runQuery connection query with
      | .error failure =>
        report .high s!"SQL Error: {failure.message} ({query.sql})"
        return .ok (Failure.query failure.message).userMessage
      | .ok [] => return .error (.emptyResult noRecords)
      | .ok rows => return .ok (← writeAnswer request body binding rows)

/-- Writes the row loops among nodes, up to one that ends the section. -/
def writeRowLoopsAll (request : Request) : List Node → StateM Page (Except Failure String)
  | [] => return .ok ""
  | node :: rest => do
    let written ←
      match node with
      | .section _ children _ => writeRowLoop request (Text.trim (Node.sources children))
      | node => pure (.ok node.source)
    match written with
    | .error failure => return .error failure
    | .ok written => return (← writeRowLoopsAll request rest).map (written ++ ·)

/-- Writes the row loops of a section. -/
def writeRowLoops (request : Request) (source : String) :
    StateM Page (Except Failure String) :=
  writeRowLoopsAll request (Node.parse ["rowLoop"] source)

end Formwork.Page
