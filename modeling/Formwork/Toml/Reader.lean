import Formwork.Toml.Lexeme
import Formwork.Toml.Scalar
import Formwork.Toml.Value

/-!
# Reading TOML documents

The reader takes one lexeme at a time. Its state holds the table built so far, the table that the
last header names, what is open (a statement, arrays and inline tables, innermost first) and what may
come next. Whether a document may end is decided by the state alone.
-/

namespace Formwork.Toml

/-- What waits for a value. -/
inductive Frame where
  /-- An assignment to a key at the end of a path. -/
  | entry (path : List String) (key : String)
  /-- An array with the items read, last first. -/
  | array (reversed : List Item)
  /-- An inline table with the entries read, and the path and key of the next one. -/
  | inline (entries : Entries Item) (path : List String) (key : String)
deriving Repr

/-- What a key is read for. -/
inductive KeyUse where
  /-- A header, in single or double brackets. -/
  | header (double : Bool)
  /-- An assignment. -/
  | entry
  /-- The next entry of an inline table. -/
  | inline (entries : Entries Item)
deriving Repr

/-- What may come next. -/
inductive Phase where
  /-- A statement. -/
  | statement
  /-- The second bracket of a header in double brackets, or the key of a header. -/
  | bracket
  /-- A part of a key behind the given parts, last first. -/
  | keyPart (use : KeyUse) (reversed : List String)
  /-- A point or the end of the key. -/
  | keyEnd (use : KeyUse) (reversed : List String)
  /-- The second closing bracket of a header that names a path and a key. -/
  | closing (path : List String) (key : String)
  /-- A value. -/
  | value
  /-- More of a bare value, whose characters are given last first. A single space was read behind
  them or not. -/
  | scalar (reversed : List Char) (spaced : Bool)
  /-- A comma or the end of an array. -/
  | itemEnd
  /-- A comma or the end of an inline table. -/
  | entryEnd (entries : Entries Item)
  /-- The end of the line. -/
  | lineEnd
deriving Repr

/-- The state between two lexemes. -/
structure Reader where
  /-- The document. -/
  root : Entries Item := []
  /-- The path of the last header. -/
  place : List String := []
  /-- What waits for a value, innermost first. -/
  frames : List Frame := []
  /-- What may come next. -/
  phase : Phase := .statement
deriving Repr

/-- Arrays and inline tables are nested less deeply than this, and keys have fewer parts. -/
def nestingLimit : Nat := 80

/-- The part of a key that a lexeme writes: a string on one line, or a bare run of letters, digits,
minus and underscore. -/
def keyPart? : Lexeme → Option String
  | .quoted text false => some text
  | .bare text => if text.toList.all fun c => c ≠ '+' ∧ c ≠ ':' then some text else none
  | _ => none

namespace Reader

/-- Puts a complete value in its place. -/
def complete (reader : Reader) (value : Item) : Option Reader :=
  match reader.frames with
  | .entry path key :: _ => do
    let root ← alterAt .passage (assign path key value) reader.place .header reader.root
    return { reader with root, frames := [], phase := .lineEnd }
  | .array reversed :: outer =>
    some { reader with frames := .array (value :: reversed) :: outer, phase := .itemEnd }
  | .inline entries path key :: outer => do
    let entries ← assign path key value .header entries
    return { reader with frames := outer, phase := .entryEnd entries }
  | [] => none

/-- Ends a key, whose parts are given last first. -/
def endKey (reader : Reader) (use : KeyUse) (reversed : List String) (mark : Char) :
    Option Reader :=
  match reversed with
  | [] => none
  | key :: above =>
    let path := above.reverse
    if nestingLimit ≤ reversed.length then none
    else
      match use, mark with
      | .entry, '=' =>
        some { reader with frames := [.entry path key], phase := .value }
      | .inline entries, '=' =>
        some { reader with frames := .inline entries path key :: reader.frames, phase := .value }
      | .header false, ']' => do
        let root ← alterAt .passage (openTable key) path .header reader.root
        return { reader with root, place := path ++ [key], phase := .lineEnd }
      | .header true, ']' => some { reader with phase := .closing path key }
      | _, _ => none

/-- The beginning of a value, or the end of an array that has no further item. -/
def startValue (reader : Reader) (lexeme : Lexeme) : Option Reader :=
  match lexeme, reader.frames with
  | .blank _, _ => some reader
  | .newline, .array _ :: _ => some reader
  | .mark ']', .array reversed :: outer =>
    complete { reader with frames := outer } (.array reversed.reverse)
  | .bare text, _ => some { reader with phase := .scalar text.toList.reverse false }
  | .quoted text _, _ => complete reader (.string text)
  | .mark '[', frames =>
    if frames.length < nestingLimit then some { reader with frames := .array [] :: frames }
    else none
  | .mark '\x7b', frames =>
    if frames.length < nestingLimit then
      some { reader with phase := .keyPart (.inline []) [] }
    else none
  | _, _ => none

/-- Something behind a complete value. -/
def afterValue (reader : Reader) (lexeme : Lexeme) : Option Reader :=
  match lexeme, reader.phase, reader.frames with
  | .blank _, _, _ => some reader
  | .newline, .lineEnd, _ => some { reader with phase := .statement }
  | .newline, .itemEnd, _ => some reader
  | .mark ',', .itemEnd, _ => some { reader with phase := .value }
  | .mark ']', .itemEnd, .array reversed :: outer =>
    complete { reader with frames := outer } (.array reversed.reverse)
  | .mark ',', .entryEnd entries, _ => some { reader with phase := .keyPart (.inline entries) [] }
  | .mark '\x7d', .entryEnd entries, _ => complete reader (.inline entries)
  | _, _, _ => none

/-- Something where a part of a key is expected. An inline table may end before its first key. -/
def startKeyPart (reader : Reader) (use : KeyUse) (reversed : List String) (lexeme : Lexeme) :
    Option Reader :=
  match lexeme, use, reversed with
  | .blank _, _, _ => some { reader with phase := .keyPart use reversed }
  | .mark '\x7d', .inline [], [] => complete reader (.inline [])
  | lexeme, use, reversed => do
    return { reader with phase := .keyEnd use ((← keyPart? lexeme) :: reversed) }

/-- Takes one lexeme. A bare value may hold one space, which stands between a date and a time. -/
def step (reader : Reader) (lexeme : Lexeme) : Option Reader :=
  match reader.phase, lexeme with
  | .statement, .blank _ | .statement, .newline => some reader
  | .statement, .mark '[' => some { reader with phase := .bracket }
  | .statement, lexeme => startKeyPart reader .entry [] lexeme
  | .bracket, .mark '[' => some { reader with phase := .keyPart (.header true) [] }
  | .bracket, lexeme => startKeyPart reader (.header false) [] lexeme
  | .keyPart use reversed, lexeme => startKeyPart reader use reversed lexeme
  | .keyEnd _ _, .blank _ => some reader
  | .keyEnd use reversed, .mark '.' => some { reader with phase := .keyPart use reversed }
  | .keyEnd use reversed, .mark mark => endKey reader use reversed mark
  | .keyEnd _ _, _ => none
  | .closing path key, .mark ']' => do
    let root ← alterAt .passage (appendTable key) path .header reader.root
    return { reader with root, place := path ++ [key], phase := .lineEnd }
  | .closing _ _, _ => none
  | .value, lexeme => startValue reader lexeme
  | .scalar reversed false, .bare text =>
    some { reader with phase := .scalar (text.toList.reverse ++ reversed) false }
  | .scalar reversed false, .mark '.' =>
    some { reader with phase := .scalar ('.' :: reversed) false }
  | .scalar reversed false, .blank " " => some { reader with phase := .scalar reversed true }
  | .scalar reversed true, .bare text =>
    some { reader with phase := .scalar (text.toList.reverse ++ ' ' :: reversed) false }
  | .scalar reversed _, lexeme => do
    afterValue (← complete reader (.bare (← scalar? reversed.reverse))) lexeme
  | .itemEnd, lexeme | .entryEnd _, lexeme | .lineEnd, lexeme => afterValue reader lexeme

/-- The document, if it may end here. -/
def finish (reader : Reader) : Option (Entries Item) :=
  match reader.phase, reader.frames with
  | .statement, _ | .lineEnd, _ => some reader.root
  | .scalar reversed _, [.entry _ _] => do
    return (← complete reader (.bare (← scalar? reversed.reverse))).root
  | _, _ => none

end Reader

/-- The value that a text writes. -/
def value? (text : String) : Option Json := do
  documentValue? (← (← (← Lexeme.ofText? text).foldlM Reader.step {}).finish)

end Formwork.Toml
