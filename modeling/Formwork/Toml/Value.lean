import Formwork.Toml.Moment
import Formwork.Toml.Table

/-!
# Values of TOML documents

What a key stands for, as a value. One key is reserved: a table that begins with it stands for the
moment that its string writes, whatever follows in the table. A reserved key that stands first and
has something else than such a string makes the document malformed.
-/

namespace Formwork.Toml

/-- The reserved key. -/
def momentKey : String := "$__toml_private_datetime"

/-- The value of a table that begins with the reserved key. -/
def momentValue? : Item → Option Json
  | .string text =>
    (Moment.ofChars? text.toList).map fun moment => .string moment.text
  | _ => none

/-- The value of a table. The members are those of its entries if the reserved key does not stand
first, so they do not count, and may be malformed, if it does. -/
def tableValue? (entries : List (String × Item)) (members : Option (Entries Json)) : Option Json :=
  match entries with
  | (key, item) :: _ => if key = momentKey then momentValue? item else members.map .object
  | [] => members.map .object

mutual

/-- The value that an item stands for. -/
def Item.toJson? : Item → Option Json
  | .string text => some (.string text)
  | .bare json => some json
  | .array items => (itemsOf? items).map .array
  | .inline entries => tableValue? entries (membersOf? entries)
  | .table _ entries => tableValue? entries (membersOf? entries)
  | .tables reversed => (tablesOf? reversed).map fun values => .array values.reverse

/-- The values of array items. -/
def itemsOf? : List Item → Option (List Json)
  | [] => some []
  | item :: rest => do return (← item.toJson?) :: (← itemsOf? rest)

/-- The members that entries stand for. -/
def membersOf? : List (String × Item) → Option (Entries Json)
  | [] => some []
  | (key, item) :: rest => do return (key, ← item.toJson?) :: (← membersOf? rest)

/-- The values of tables. -/
def tablesOf? : List (List (String × Item)) → Option (List Json)
  | [] => some []
  | entries :: rest => do
    return (← tableValue? entries (membersOf? entries)) :: (← tablesOf? rest)

end

/-- The value of a whole document. -/
def documentValue? (entries : Entries Item) : Option Json :=
  tableValue? entries (membersOf? entries)

end Formwork.Toml
