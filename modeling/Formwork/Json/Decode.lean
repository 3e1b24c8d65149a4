import Formwork.Json.Basic

/-!
# Decoding JSON documents

A record is written as an object with named members or as a list that gives its members in order.
In an object no member of the record may be given twice and members that the record does not have
are passed over. A list must give every member, unless all members of the record have defaults, and
may give no more.
-/

namespace Formwork.Json

/-- Why a document is not of the expected form. -/
inductive Fault where
  /-- The text is no JSON document. -/
  | malformed
  /-- Something else stands where a value of the named form is expected. -/
  | expected (form : String)
  /-- A member is not given. -/
  | missing (member : String)
  /-- A member is given twice. -/
  | repeated (member : String)
  /-- A list has too few or too many items. -/
  | length
deriving DecidableEq, Repr

/-- What the fault is, in words. -/
def Fault.message : Fault → String
  | .malformed => "malformed document"
  | .expected form => "expected " ++ form
  | .missing member => "missing member " ++ member
  | .repeated member => "repeated member " ++ member
  | .length => "wrong number of items"

/-- Reads a value from a document. -/
abbrev Decoder (α : Type) := Json → Except Fault α

/-- A text. -/
def asText : Decoder String
  | .string text => .ok text
  | _ => .error (.expected "a text")

/-- A truth value. -/
def asFlag : Decoder Bool
  | .bool value => .ok value
  | _ => .error (.expected "a truth value")

/-- A whole number that is not negative and fits 64 bits. -/
def asNatural : Decoder Nat
  | .int (.ofNat n) =>
    if n < 0x10000000000000000 then .ok n else .error (.expected "a number")
  | _ => .error (.expected "a number")

/-- A value or `null`. -/
def orNull {α : Type} (decode : Decoder α) : Decoder (Option α)
  | .null => .ok none
  | json => (decode json).map some

/-- A list of values. -/
def asList {α : Type} (decode : Decoder α) : Decoder (List α)
  | .array items => items.mapM decode
  | _ => .error (.expected "a list")

/-- An object whose members are values. -/
def asMap {α : Type} (decode : Decoder α) : Decoder (TextMap α)
  | .object members =>
    (members.mapM fun member => (decode member.2).map fun value => (member.1, value)).map .ofList
  | _ => .error (.expected "an object")

/-- Two texts in a list. -/
def asTextPair : Decoder (String × String)
  | .array [left, right] => do return (← asText left, ← asText right)
  | .array _ => .error .length
  | _ => .error (.expected "a pair")

/-- One of several names: as a text, or as the only member of an object, with the value `null`. -/
def asName {α : Type} (ofName? : String → Option α) (json : Json) : Except Fault α :=
  let known (name : String) : Except Fault α :=
    match ofName? name with
    | some value => .ok value
    | none => .error (.expected "a known name")
  match json with
  | .string name => known name
  | .object [(name, .null)] => known name
  | _ => .error (.expected "a name")

/-- Whether a list may leave out members at its end. -/
inductive Shortage where
  /-- Every member has to be given. -/
  | refused
  /-- Members that are left out have their defaults. -/
  | allowed
deriving DecidableEq

/-- The members of a record that a document gives. -/
def asRecord (names : List String) (shortage : Shortage) : Decoder (Entries Json)
  | .object members =>
    let known := members.filter fun member => names.contains member.1
    match names.find? fun name => 1 < (known.filter fun member => member.1 = name).length with
    | some name => .error (.repeated name)
    | none => .ok known
  | .array items =>
    if names.length < items.length ∨ (shortage = .refused ∧ items.length < names.length) then
      .error .length
    else .ok (names.zip items)
  | _ => .error (.expected "a record")

/-- A member that must be given. -/
def required {α : Type} (decode : Decoder α) (name : String) (members : Entries Json) :
    Except Fault α :=
  match members.get? name with
  | some value => decode value
  | none => .error (.missing name)

/-- A member that may be `null` or not given. -/
def optional {α : Type} (decode : Decoder α) (name : String) (members : Entries Json) :
    Except Fault (Option α) :=
  match members.get? name with
  | some value => orNull decode value
  | none => .ok none

/-- A member with a default. -/
def defaulted {α : Type} (default : α) (decode : Decoder α) (name : String)
    (members : Entries Json) : Except Fault α :=
  match members.get? name with
  | some value => decode value
  | none => .ok default

/-! ## Writing -/

/-- A list of texts. -/
def ofTexts (texts : List String) : Json := .array (texts.map .string)

/-- A text or `null`. -/
def ofText? : Option String → Json
  | some text => .string text
  | none => .null

/-- Pairs of texts, each as a list of two. -/
def ofPairs (pairs : List (String × String)) : Json :=
  .array (pairs.map fun (name, value) => ofTexts [name, value])

/-- A map as an object. -/
def ofMap {α : Type} (encode : α → Json) (map : TextMap α) : Json :=
  .object (map.entries.map fun (name, value) => (name, encode value))

/-- A natural number. -/
def ofNat (n : Nat) : Json := .int n

end Formwork.Json
