import Formwork.Text.Basic

/-!
# Selecting rows of a table

Only the table name is quoted. The other parts of the statement come from the application's own
configuration and stand in it as they are; blank parts are left out.
-/

namespace Formwork

/-- A statement that selects all columns of a table. -/
structure Select where
  /-- The table. -/
  table : String
  /-- The condition on rows. -/
  condition : Option String := none
  /-- The order of rows. -/
  order : Option String := none
  /-- The greatest number of rows. -/
  limit : Option String := none
deriving DecidableEq, Repr

/-- A name between quotation marks, with every mark inside it written twice. -/
def quoteIdentifier (mark : Char) (name : String) : String :=
  let doubled := name.toList.flatMap fun c => if c = mark then [mark, mark] else [c]
  String.ofList (mark :: doubled ++ [mark])

namespace Select

/-- A part of the statement behind its keyword, trimmed; nothing for a blank part. -/
def clause (keyword : String) (part : Option String) : String :=
  match part.map Text.trim with
  | some part => if part = "" then "" else " " ++ keyword ++ " " ++ part
  | none => ""

/-- The statement, with the table name written by the given function. -/
def sql (select : Select) (quote : String → String) : String :=
  "SELECT * FROM " ++ quote select.table ++ clause "WHERE" select.condition
    ++ clause "ORDER BY" select.order ++ clause "LIMIT" select.limit

end Select

end Formwork
