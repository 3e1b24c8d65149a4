/-!
# UTF-8

Octets are taken one at a time by a machine that remembers how far into a character it stands. An
octet that cannot continue the character ends it as malformed and is then looked at afresh, so a
malformed stretch is cut into its longest beginnings of characters. Strict decoding refuses malformed
octets, and lenient decoding puts one replacement character for each piece.
-/

namespace Formwork.Text.Utf8

/-- The rest of a character of several octets. -/
structure Rest where
  /-- How many octets are to come. -/
  count : Nat
  /-- The bits collected. -/
  bits : Nat
  /-- The least octet that may come next. -/
  low : Nat
  /-- The greatest octet that may come next. -/
  high : Nat

/-- What an octet at the beginning of a character gives: pieces, and the rest of a character. A
malformed piece is `none`. The bounds rule out overlong forms, surrogates and codes beyond the
last. -/
def start (octet : Nat) : List (Option Char) × Option Rest :=
  if octet < 0x80 then ([some (Char.ofNat octet)], none)
  else if octet < 0xC2 then ([none], none)
  else if octet < 0xE0 then ([], some ⟨1, octet - 0xC0, 0x80, 0xBF⟩)
  else if octet < 0xF0 then
    ([], some ⟨2, octet - 0xE0, if octet = 0xE0 then 0xA0 else 0x80,
      if octet = 0xED then 0x9F else 0xBF⟩)
  else if octet < 0xF5 then
    ([], some ⟨3, octet - 0xF0, if octet = 0xF0 then 0x90 else 0x80,
      if octet = 0xF4 then 0x8F else 0xBF⟩)
  else ([none], none)

/-- What the next octet gives. -/
def step (rest : Option Rest) (octet : Nat) : List (Option Char) × Option Rest :=
  match rest with
  | none => start octet
  | some rest =>
    if rest.low ≤ octet ∧ octet ≤ rest.high then
      let bits := 64 * rest.bits + (octet - 0x80)
      if rest.count ≤ 1 then ([some (Char.ofNat bits)], none)
      else ([], some ⟨rest.count - 1, bits, 0x80, 0xBF⟩)
    else
      let (pieces, rest) := start octet
      (none :: pieces, rest)

/-- The pieces that octets are cut into. A character that is left unfinished is malformed. -/
def pieces (rest : Option Rest) : List UInt8 → List (Option Char)
  | [] => if rest.isSome then [none] else []
  | octet :: octets =>
    let (found, rest) := step rest octet.toNat
    found ++ pieces rest octets

/-- The text with one replacement character for each malformed piece. -/
def decodeLenient (octets : List UInt8) : String :=
  String.ofList ((pieces none octets).map (·.getD '\ufffd'))

/-- The text, unless some piece is malformed. -/
def decode? (octets : List UInt8) : Option String :=
  ((pieces none octets).mapM id).map String.ofList

/-- The octets of a text. -/
def encode (text : String) : List UInt8 := text.toList.flatMap String.utf8EncodeChar

end Formwork.Text.Utf8
