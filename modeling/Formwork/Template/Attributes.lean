import Formwork.Text.Basic

/-!
# Attributes of a tag

A tag carries `name="value"` pairs; single quotes are accepted, a bare word has the empty value, and
whatever lies between two pairs is skipped. Pairs keep the order in which their names first appeared,
so a rewritten tag keeps its shape. A value written without quotes is not a value: `a=b` names `a`
and then `b`, both empty.
-/

namespace Formwork

/-- Pairs of attribute name and value in order of first appearance. -/
structure Attributes where
  /-- The pairs. -/
  pairs : List (String × String) := []
deriving DecidableEq, Repr, Inhabited

namespace Attributes

open Text (isBlank)

/-- No attributes. -/
def empty : Attributes := {}

/-- The value under a name. -/
def get? (attributes : Attributes) (name : String) : Option String :=
  (attributes.pairs.find? fun pair => pair.1 = name).map (·.2)

/-- A name is present. -/
def contains (attributes : Attributes) (name : String) : Bool :=
  (attributes.get? name).isSome

/-- Replaces the value of the first pair with the name, or adds a pair at the end. -/
def setPair (name value : String) : List (String × String) → List (String × String)
  | [] => [(name, value)]
  | (n, v) :: rest => if n = name then (n, value) :: rest else (n, v) :: setPair name value rest

/-- The attributes with one value written: in place if the name is present, else at the end. -/
def set (attributes : Attributes) (name value : String) : Attributes :=
  ⟨setPair name value attributes.pairs⟩

/-- The attributes without the first pair of the given name. -/
def erase (attributes : Attributes) (name : String) : Attributes :=
  ⟨attributes.pairs.eraseP fun pair => pair.1 = name⟩

/-- Writes pairs one after another. -/
def setAll (attributes : Attributes) (pairs : List (String × String)) : Attributes :=
  pairs.foldl (fun attributes (name, value) => attributes.set name value) attributes

/-- Attributes collected from pairs; a later duplicate replaces the earlier value in place. -/
def ofList (pairs : List (String × String)) : Attributes := empty.setAll pairs

/-- The left attributes overlaid by the right ones. -/
def merge (left right : Attributes) : Attributes := left.setAll right.pairs

/-- The number of pairs. -/
def size (attributes : Attributes) : Nat := attributes.pairs.length

/-- There are no pairs. -/
def isEmpty (attributes : Attributes) : Bool := attributes.pairs.isEmpty

/-! ## Attribute text -/

/-- A character that may begin an attribute name. -/
def startsName (c : Char) : Bool := c.isAlpha || c == '_' || c == ':'

/-- A character that may continue an attribute name. -/
def continuesName (c : Char) : Bool := startsName c || c.isDigit || c == '-' || c == '.'

/-- The quoted value that may follow a name: an equals sign between optional blanks and a text in
matching quotes. The result is the value and the length of all that was read. -/
def quotedValue? (chars : List Char) : Option (List Char × Nat) :=
  match chars.dropWhile isBlank with
  | '=' :: afterEquals =>
    match afterEquals.dropWhile isBlank with
    | quote :: body =>
      if quote = '"' ∨ quote = '\x27' then
        let value := body.takeWhile (· ≠ quote)
        let blanks := (chars.takeWhile isBlank).length + (afterEquals.takeWhile isBlank).length
        if value.length < body.length then some (value, blanks + value.length + 3) else none
      else none
    | [] => none
  | _ => none

/-- Reads pairs from left to right. The number says how many characters still belong to the pair
that was read last. -/
def scanPairs : Nat → List Char → List (String × String)
  | _, [] => []
  | covered + 1, _ :: rest => scanPairs covered rest
  | 0, c :: rest =>
    if startsName c then
      let more := rest.takeWhile continuesName
      let name := String.ofList (c :: more)
      match quotedValue? (rest.dropWhile continuesName) with
      | some (value, length) =>
        (name, String.ofList value) :: scanPairs (more.length + length) rest
      | none => (name, "") :: scanPairs more.length rest
    else scanPairs 0 rest

/-- The attributes written in a text. -/
def parse (text : String) : Attributes := ofList (scanPairs 0 text.toList)

/-- The attributes as tag text, each value in double quotes. -/
def toSource (attributes : Attributes) : String :=
  Text.joinWith " " (attributes.pairs.map fun (name, value) => name ++ "=\"" ++ value ++ "\"")

end Attributes

namespace Text

/-- The truth value that a word stands for, or `none` for a word that stands for neither. -/
def truth? (word : String) : Option Bool :=
  let folded := (trim word).toLower
  if folded ∈ ["true", "1", "yes", "on", "y", "t"] then some true
  else if folded ∈ ["false", "0", "no", "off", "n", "f", ""] then some false
  else none

end Text

end Formwork
