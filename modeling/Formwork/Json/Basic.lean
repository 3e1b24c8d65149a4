import Formwork.Decimal.Binary
import Formwork.TextMap

/-!
# JSON values

A document is read as it is written: the members of an object keep their order and may repeat a
name. `Json.collapse` gives the value such a document stands for, in which the last of equal names
counts. Integers and fractional numbers are kept apart, because a fractional number is never accepted
where an integer is asked for, whatever its size.
-/

namespace Formwork

/-- A JSON document. -/
inductive Json where
  /-- The literal `null`. -/
  | null
  /-- A truth value. -/
  | bool (value : Bool)
  /-- A number written as an integer that fits 64 bits. -/
  | int (value : Int)
  /-- Any other number. -/
  | float (value : Binary64)
  /-- A text. -/
  | string (text : String)
  /-- A text that holds one half of a surrogate pair without the other, or an object with such a
  name. It can be written and passed over, but it stands for no value. -/
  | unpaired
  /-- A list. -/
  | array (items : List Json)
  /-- Named members, in written order. -/
  | object (members : List (String × Json))
deriving Repr, Inhabited

namespace Json

mutual

/-- How deeply lists and objects are nested. -/
def depth : Json → Nat
  | .array items => itemsDepth items + 1
  | .object members => membersDepth members + 1
  | _ => 0

/-- The greatest depth among list items. -/
def itemsDepth : List Json → Nat
  | [] => 0
  | item :: rest => max item.depth (itemsDepth rest)

/-- The greatest depth among members. -/
def membersDepth : Entries Json → Nat
  | [] => 0
  | (_, value) :: rest => max value.depth (membersDepth rest)

end

mutual

/-- Every number is within the range of the binary format, and every text is one. -/
def isProper : Json → Bool
  | .float value => value.isFinite
  | .unpaired => false
  | .array items => itemsProper items
  | .object members => membersProper members
  | _ => true

/-- Every item is proper. -/
def itemsProper : List Json → Bool
  | [] => true
  | item :: rest => item.isProper && itemsProper rest

/-- Every member is proper. -/
def membersProper : Entries Json → Bool
  | [] => true
  | (_, value) :: rest => value.isProper && membersProper rest

end

mutual

/-- The value of a document: of members with equal names the last one counts. -/
def collapse : Json → Json
  | .array items => .array (collapseItems items)
  | .object members => .object (TextMap.ofList (collapseMembers members)).entries
  | json => json

/-- The values of list items. -/
def collapseItems : List Json → List Json
  | [] => []
  | item :: rest => item.collapse :: collapseItems rest

/-- The values of members. -/
def collapseMembers : Entries Json → Entries Json
  | [] => []
  | (name, value) :: rest => (name, value.collapse) :: collapseMembers rest

end

end Json

end Formwork
