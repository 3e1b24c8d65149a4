import Formwork.Decimal.Style
import Formwork.Json.Decode
import Formwork.Text.Utf8

/-!
# Database values

A cell is one value of a result row or one parameter of a query. A form only needs its text; the
shown text is for messages.
-/

namespace Formwork

/-- A database value. -/
inductive Cell where
  /-- No value. -/
  | null
  /-- A truth value. -/
  | bool (value : Bool)
  /-- A whole number. -/
  | int (value : Int)
  /-- A floating-point number. -/
  | float (value : Binary64)
  /-- A text. -/
  | text (value : String)
  /-- Raw octets. -/
  | octets (value : List UInt8)
deriving DecidableEq, Repr

namespace Cell

/-- There is no value. -/
def isNull : Cell → Bool
  | .null => true
  | _ => false

/-- The text put into an input: nothing for no value, one and zero for truth values, and octets read
as UTF-8 with malformed pieces replaced. -/
def formText : Cell → String
  | .null => ""
  | .bool value => if value then "1" else "0"
  | .int value => Decimal.intText value
  | .float value => Decimal.cellStyle.text value
  | .text value => value
  | .octets value => Text.Utf8.decodeLenient value

/-- The text shown in messages. -/
def shown : Cell → String
  | .null => "NULL"
  | .bool value => if value then "true" else "false"
  | .int value => Decimal.intText value
  | .float value => Decimal.cellStyle.text value
  | .text value => value
  | .octets value => "<" ++ Decimal.natText value.length ++ " bytes>"

/-- The cell as a JSON document: the name of its form and, unless there is none, its value. -/
def toJson : Cell → Json
  | .null => .object [("type", .string "Null")]
  | .bool value => .object [("type", .string "Bool"), ("value", .bool value)]
  | .int value => .object [("type", .string "Int"), ("value", .int value)]
  | .float value => .object [("type", .string "Float"), ("value", .float value)]
  | .text value => .object [("type", .string "String"), ("value", .string value)]
  | .octets value =>
    .object [("type", .string "Bytes"), ("value", .array (value.map fun octet => .int octet.toNat))]

end Cell

end Formwork
