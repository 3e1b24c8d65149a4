import Formwork.Text.Hex

/-!
# Lexical units of TOML

A TOML text is cut into lexemes by a machine that takes one character at a time. Beforehand the line
ends are made uniform and characters that stand nowhere in a document are refused. Comments leave no
lexeme. Blanks and line ends are kept, because both decide where a statement ends. The text of a
string is already what the string stands for.
-/

namespace Formwork.Toml

/-- A lexical unit. -/
inductive Lexeme where
  /-- Spaces and tabs. -/
  | blank (text : String)
  /-- The end of a line. -/
  | newline
  /-- A run of letters, digits, minus, plus, underscore and colon. -/
  | bare (text : String)
  /-- A string, on one line or, as a block, on several. -/
  | quoted (text : String) (block : Bool)
  /-- A bracket, brace, equals sign, comma or point. -/
  | mark (character : Char)
deriving DecidableEq, Repr

namespace Lexeme

/-- A character that may stand in a document: a tab, a line end, or a character that is no control
character of ASCII. -/
def isAdmitted (c : Char) : Bool := c == '\t' || c == '\n' || (' ' ≤ c && c ≠ '\x7f')

/-- The characters with a carriage return before a line feed left out, if all others may stand in a
document. -/
def uniform? : List Char → Option (List Char)
  | [] => some []
  | '\r' :: '\n' :: rest => (uniform? rest).map ('\n' :: ·)
  | c :: rest => if isAdmitted c then (uniform? rest).map (c :: ·) else none

/-- A space or a tab. -/
def isBlank (c : Char) : Bool := c == ' ' || c == '\t'

/-- A character of a bare run. -/
def isBare (c : Char) : Bool := c.isAlphanum || c == '_' || c == '-' || c == '+' || c == ':'

/-- A character that is a lexeme of its own. -/
def isMark (c : Char) : Bool := ['[', ']', '\x7b', '\x7d', '=', ',', '.'].contains c

/-- Where the machine stands inside a string. -/
inductive Position where
  /-- An ordinary character comes next. -/
  | plain
  /-- The block has just been opened; a line end that follows at once is left out. -/
  | opened
  /-- This many quotes in a row were read inside a block. -/
  | quotes (count : Nat)
  /-- A backslash was read. -/
  | backslash
  /-- This many hexadecimal digits are to come, behind others of the given value. -/
  | hex (left value : Nat)
  /-- Blanks are left out behind a backslash at the end of a line; the line end was read or not. -/
  | folding (broken : Bool)
deriving DecidableEq, Repr

/-- What the machine is in the middle of. -/
inductive Mode where
  /-- Nothing. -/
  | between
  /-- A run of blanks, last first. -/
  | blank (reversed : List Char)
  /-- A bare run, last first. -/
  | bare (reversed : List Char)
  /-- A comment. -/
  | comment
  /-- One or two quotes that open a string or a block. -/
  | opening (quote : Char) (count : Nat)
  /-- A string with the characters it stands for, last first. -/
  | quoted (quote : Char) (block : Bool) (reversed : List Char) (position : Position)
deriving DecidableEq, Repr

/-- The state between two characters. -/
structure Cutter where
  /-- The lexemes that are complete, last first. -/
  reversed : List Lexeme := []
  /-- What is not complete. -/
  mode : Mode := .between
deriving DecidableEq, Repr

/-- The lexeme of a bare run. -/
def ofBare (reversed : List Char) : Lexeme := .bare (String.ofList reversed.reverse)

/-- The lexeme of a run of blanks. -/
def ofBlank (reversed : List Char) : Lexeme := .blank (String.ofList reversed.reverse)

/-- The lexeme of a string. -/
def ofQuoted (block : Bool) (reversed : List Char) : Lexeme :=
  .quoted (String.ofList reversed.reverse) block

/-- The character that a letter behind a backslash stands for. -/
def unescape? : Char → Option Char
  | '"' => some '"'
  | '\\' => some '\\'
  | 'b' => some '\x08'
  | 'f' => some '\x0c'
  | 'n' => some '\n'
  | 'r' => some '\r'
  | 't' => some '\t'
  | _ => none

/-- The character with a code, which is no surrogate and not beyond the last. -/
def scalar? (code : Nat) : Option Char :=
  if code.isValidChar then some (Char.ofNat code) else none

/-- An ordinary character of a string. Only strings in double quotes know escapes, and only blocks
hold line ends. -/
def plainChar (quote : Char) (block : Bool) (reversed : List Char) (c : Char) :
    Option (List Char × Position) :=
  if c = '\\' ∧ quote = '"' then some (reversed, .backslash)
  else if c = '\n' ∧ ¬block then none
  else some (c :: reversed, .plain)

/-- A character behind a backslash. -/
def escapedChar (block : Bool) (reversed : List Char) (c : Char) :
    Option (List Char × Position) :=
  if c = 'u' then some (reversed, .hex 4 0)
  else if c = 'U' then some (reversed, .hex 8 0)
  else if block ∧ isBlank c then some (reversed, .folding false)
  else if block ∧ c = '\n' then some (reversed, .folding true)
  else (unescape? c).map fun plain => (plain :: reversed, .plain)

/-- One more character of a string that it does not end. -/
def stringChar (quote : Char) (block : Bool) (reversed : List Char) (position : Position)
    (c : Char) : Option (List Char × Position) :=
  match position with
  | .plain => plainChar quote block reversed c
  | .opened => if c = '\n' then some (reversed, .plain) else plainChar quote block reversed c
  | .quotes count => plainChar quote block (List.replicate count quote ++ reversed) c
  | .backslash => escapedChar block reversed c
  | .hex left value => do
    let value := 16 * value + (← Text.hexValue? c)
    if 1 < left then some (reversed, .hex (left - 1) value)
    else return ((← scalar? value) :: reversed, .plain)
  | .folding broken =>
    if isBlank c then some (reversed, .folding broken)
    else if c = '\n' then some (reversed, .folding true)
    else if broken then plainChar quote block reversed c
    else none

/-- The text of a block that ends with this many quotes: three close it and up to two before them
belong to it. -/
def closeBlock? (quote : Char) (reversed : List Char) (count : Nat) : Option Lexeme :=
  if 3 ≤ count ∧ count ≤ 5 then
    some (ofQuoted true (List.replicate (count - 3) quote ++ reversed))
  else none

namespace Cutter

/-- The first character of a lexeme. -/
def start (reversed : List Lexeme) (c : Char) : Option Cutter :=
  if c = '\n' then some { reversed := .newline :: reversed }
  else if isBlank c then some { reversed, mode := .blank [c] }
  else if isBare c then some { reversed, mode := .bare [c] }
  else if c = '#' then some { reversed, mode := .comment }
  else if c = '"' ∨ c = '\'' then some { reversed, mode := .opening c 1 }
  else if isMark c then some { reversed := .mark c :: reversed }
  else none

/-- One more character of a string. -/
def stepQuoted (reversed : List Lexeme) (quote : Char) (block : Bool) (chars : List Char)
    (position : Position) (c : Char) : Option Cutter := do
  let literal := position = .plain ∨ position = .opened ∨ position = .folding true
  match position, decide (c = quote) with
  | .quotes count, true =>
    return { reversed, mode := .quoted quote block chars (.quotes (count + 1)) }
  | .quotes count, false =>
    if 3 ≤ count then start ((← closeBlock? quote chars count) :: reversed) c
    else
      let (chars, position) ← stringChar quote block chars position c
      return { reversed, mode := .quoted quote block chars position }
  | position, ends =>
    if ends ∧ literal then
      if block then return { reversed, mode := .quoted quote block chars (.quotes 1) }
      else return { reversed := ofQuoted false chars :: reversed }
    else
      let (chars, position) ← stringChar quote block chars position c
      return { reversed, mode := .quoted quote block chars position }

/-- Takes one character. -/
def step (cutter : Cutter) (c : Char) : Option Cutter :=
  let reversed := cutter.reversed
  match cutter.mode with
  | .between => start reversed c
  | .blank chars =>
    if isBlank c then some { reversed, mode := .blank (c :: chars) }
    else start (ofBlank chars :: reversed) c
  | .bare chars =>
    if isBare c then some { reversed, mode := .bare (c :: chars) }
    else start (ofBare chars :: reversed) c
  | .comment => if c = '\n' then start reversed c else some cutter
  | .opening quote count =>
    if c = quote then
      if count = 1 then some { reversed, mode := .opening quote 2 }
      else some { reversed, mode := .quoted quote true [] .opened }
    else if count = 1 then stepQuoted reversed quote false [] .plain c
    else start (ofQuoted false [] :: reversed) c
  | .quoted quote block chars position => stepQuoted reversed quote block chars position c

/-- The lexemes, if the text may end here. -/
def finish (cutter : Cutter) : Option (List Lexeme) :=
  match cutter.mode with
  | .between | .comment => some cutter.reversed.reverse
  | .blank chars => some (ofBlank chars :: cutter.reversed).reverse
  | .bare chars => some (ofBare chars :: cutter.reversed).reverse
  | .opening _ 2 => some (ofQuoted false [] :: cutter.reversed).reverse
  | .quoted quote _ chars (.quotes count) =>
    (closeBlock? quote chars count).map fun last => (last :: cutter.reversed).reverse
  | _ => none

end Cutter

/-- The lexemes of a text. A byte order mark in front of it is passed over. -/
def ofText? (text : String) : Option (List Lexeme) := do
  let chars :=
    match text.toList with
    | '\ufeff' :: rest => rest
    | chars => chars
  (← (← uniform? chars).foldlM Cutter.step {}).finish

end Lexeme

end Formwork.Toml
