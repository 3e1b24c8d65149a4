import Formwork.Json.Basic
import Formwork.Decimal.Gathered
import Formwork.Text.Hex

/-!
# Reading JSON text

The reader takes one character at a time. Its state holds what is open (lists and objects, innermost
first) and what may come next, so reading a text is one fold and what was read so far is all that
decides about the rest. `Json.read?` gives the document as written; `Json.value?` gives the value of a
document that is neither nested too deeply nor holds a number out of range or a text that is none.
-/

namespace Formwork.Json

/-- Where the reader stands behind a backslash. -/
inductive Escape where
  /-- An ordinary character comes next. -/
  | plain
  /-- A backslash was read. -/
  | backslash
  /-- The given number of hexadecimal digits was read, with the given value. -/
  | hex (count value : Nat)
deriving DecidableEq, Repr

/-- One piece of a text between quotes. -/
inductive Piece where
  /-- A character. -/
  | char (c : Char)
  /-- The code of one half of a surrogate pair. -/
  | half (code : Nat)
deriving DecidableEq, Repr

/-- The name of a member, unless it holds one half of a surrogate pair without the other. -/
abbrev Name := Option String

/-- A member of an object that is still open. -/
abbrev Member := Name × Json

/-- A list or object that has been opened and not yet closed. -/
inductive Frame where
  /-- A list with the items read, last first. -/
  | items (reversed : List Json)
  /-- An object with the members read, last first, and the name whose value comes next. -/
  | members (reversed : List Member) (name : Name)
deriving Repr

/-- What may come next. -/
inductive Phase where
  /-- A value. -/
  | value
  /-- The first item of a list, or its end. -/
  | firstItem
  /-- The first name of an object, or its end. The members read so far, last first, wait. -/
  | firstName
  /-- The name of a member, behind the given members. -/
  | nextName (reversed : List Member)
  /-- The colon behind a name. -/
  | colon (reversed : List Member) (name : Name)
  /-- The end of the given value: a comma, the end of what is open, or the end of the text. -/
  | done (value : Json)
  /-- More of a text. For a name, the members before it are given. -/
  | text (name : Option (List Member)) (reversed : List Piece) (escape : Escape)
  /-- More of a number. -/
  | number (reversed : List Char)
  /-- The given characters, which complete a literal. -/
  | literal (rest : List Char) (value : Json)
deriving Repr

/-- The state between two characters. -/
structure Reader where
  /-- What is open, innermost first. -/
  frames : List Frame := []
  /-- What may come next. -/
  phase : Phase := .value
deriving Repr

/-- White space between tokens. -/
def isSpace (c : Char) : Bool := c == ' ' || c == '\n' || c == '\r' || c == '\t'

/-- A character that a number may hold. -/
def isNumeric (c : Char) : Bool :=
  c.isDigit || c == '-' || c == '+' || c == '.' || c == 'e' || c == 'E'

/-- The number written by the given characters. Its whole part has at least one digit and no
superfluous zero in front, a point or an exponent has digits behind it, and there is no plus sign in
front. Without point and exponent it is an integer if it fits 64 bits, otherwise its value is gathered
in one pass. -/
def number? (chars : List Char) : Option Json := do
  let parts ← Decimal.Parts.ofChars? chars
  if parts.explicitPlus ∨ parts.whole = [] then failure
  if parts.whole.head? = some '0' ∧ parts.whole.length ≠ 1 then failure
  if parts.fraction = some [] then failure
  let value := parts.gathered.value parts.negative
  match parts.fraction, parts.exponent with
  | none, none =>
    let n : Int := Decimal.natOfDigits parts.whole
    if parts.negative then
      if n ≠ 0 ∧ n ≤ 0x8000000000000000 then return .int (-n) else return .float value
    else if n < 0x10000000000000000 then return .int n
    else return .float value
  | _, _ => return .float value

/-- The character that a letter behind a backslash stands for. -/
def unescape? : Char → Option Char
  | '"' => some '"'
  | '\\' => some '\\'
  | '/' => some '/'
  | 'b' => some '\x08'
  | 'f' => some '\x0c'
  | 'n' => some '\n'
  | 'r' => some '\r'
  | 't' => some '\t'
  | _ => none

/-- What a sixteen-bit code adds to a text. -/
def unit (code : Nat) : Piece :=
  if 0xD800 ≤ code ∧ code < 0xE000 then .half code else .char (Char.ofNat code)

/-- One more character of a text that stays open: the pieces read, last first, and where the reader
stands. -/
def readTextChar (reversed : List Piece) (escape : Escape) (c : Char) :
    Option (List Piece × Escape) :=
  match escape with
  | .plain =>
    if c = '\\' then some (reversed, .backslash)
    else if c.toNat < 0x20 then none
    else some (.char c :: reversed, .plain)
  | .backslash =>
    if c = 'u' then some (reversed, .hex 0 0)
    else (unescape? c).map fun plain => (.char plain :: reversed, .plain)
  | .hex count value => do
    let value := 16 * value + (← Text.hexValue? c)
    if count < 3 then some (reversed, .hex (count + 1) value)
    else some (unit value :: reversed, .plain)

/-- The characters that pieces make up, in front of others. The pieces are given last first. The two
halves of a surrogate pair stand together, the high one first, and make one character. -/
def joinPieces? (behind : List Char) : List Piece → Option (List Char)
  | [] => some behind
  | .char c :: before => joinPieces? (c :: behind) before
  | .half low :: .half high :: before =>
    if high < 0xDC00 ∧ 0xDC00 ≤ low then
      joinPieces? (Char.ofNat (0x10000 + (high - 0xD800) * 0x400 + (low - 0xDC00)) :: behind) before
    else none
  | .half _ :: _ => none

/-- A high and a low half make one character, and neither does on its own or in the wrong order. -/
example :
    (joinPieces? [] [.half 0xDE00, .half 0xD83D], joinPieces? [] [.char 'A', .half 0xD83D],
      joinPieces? [] [.half 0xD83D, .half 0xDE00]) = (some ['😀'], none, none) := by decide

/-- The text that pieces make up, which are given last first. -/
def textOf? (reversed : List Piece) : Name := (joinPieces? [] reversed).map String.ofList

/-- The object with the given members, which are given last first. -/
def objectOf (reversed : List Member) : Json :=
  match reversed.reverse.mapM fun (name, value) => name.map (·, value) with
  | some members => .object members
  | none => .unpaired

namespace Reader

/-- Puts a list or object that has just ended in its place. -/
def leave (frames : List Frame) (value : Json) : Reader := { frames, phase := .done value }

/-- The character behind a complete value. -/
def afterValue (frames : List Frame) (value : Json) (c : Char) : Option Reader :=
  if isSpace c then some (leave frames value)
  else
    match frames, c with
    | .items reversed :: outer, ',' =>
      some { frames := .items (value :: reversed) :: outer, phase := .value }
    | .items reversed :: outer, ']' => some (leave outer (.array (value :: reversed).reverse))
    | .members reversed name :: outer, ',' =>
      some { frames := outer, phase := .nextName ((name, value) :: reversed) }
    | .members reversed name :: outer, '\x7d' =>
      some (leave outer (objectOf ((name, value) :: reversed)))
    | _, _ => none

/-- The first character of a value. -/
def startValue (frames : List Frame) (c : Char) : Option Reader :=
  match c with
  | '[' => some { frames := .items [] :: frames, phase := .firstItem }
  | '\x7b' => some { frames, phase := .firstName }
  | '"' => some { frames, phase := .text none [] .plain }
  | 'n' => some { frames, phase := .literal ['u', 'l', 'l'] .null }
  | 't' => some { frames, phase := .literal ['r', 'u', 'e'] (.bool true) }
  | 'f' => some { frames, phase := .literal ['a', 'l', 's', 'e'] (.bool false) }
  | c => if isNumeric c then some { frames, phase := .number [c] } else none

/-- Takes one character. -/
def step (reader : Reader) (c : Char) : Option Reader :=
  match reader.phase with
  | .value => if isSpace c then some reader else startValue reader.frames c
  | .firstItem =>
    if isSpace c then some reader
    else if c = ']' then
      match reader.frames with
      | .items _ :: outer => some (leave outer (.array []))
      | _ => none
    else startValue reader.frames c
  | .firstName =>
    if isSpace c then some reader
    else if c = '\x7d' then some (leave reader.frames (.object []))
    else if c = '"' then some { reader with phase := .text (some []) [] .plain }
    else none
  | .nextName reversed =>
    if isSpace c then some reader
    else if c = '"' then some { reader with phase := .text (some reversed) [] .plain }
    else none
  | .colon reversed name =>
    if isSpace c then some reader
    else if c = ':' then
      some { frames := .members reversed name :: reader.frames, phase := .value }
    else none
  | .done value => afterValue reader.frames value c
  | .text name reversed escape =>
    if c = '"' ∧ escape = .plain then
      let text := textOf? reversed
      match name with
      | none => some (leave reader.frames ((text.map Json.string).getD .unpaired))
      | some members => some { reader with phase := .colon members text }
    else do
      let (reversed, escape) ← readTextChar reversed escape c
      return { reader with phase := .text name reversed escape }
  | .number reversed =>
    if isNumeric c then some { reader with phase := .number (c :: reversed) }
    else do afterValue reader.frames (← number? reversed.reverse) c
  | .literal [] value => afterValue reader.frames value c
  | .literal (expected :: rest) value =>
    if c = expected then some { reader with phase := .literal rest value } else none

/-- The document, if the text may end here. -/
def finish (reader : Reader) : Option Json :=
  match reader.frames, reader.phase with
  | [], .done value => some value
  | [], .number reversed => number? reversed.reverse
  | [], .literal [] value => some value
  | _, _ => none

end Reader

/-- The document that a text writes. -/
def read? (text : String) : Option Json := do
  (← text.toList.foldlM Reader.step {}).finish

/-- The greatest nesting of a document that is read as a value. -/
def depthLimit : Nat := 127

/-- The value that a text writes. -/
def value? (text : String) : Option Json := do
  let json ← read? text
  if json.depth ≤ depthLimit ∧ json.isProper then return json.collapse else failure

end Formwork.Json
