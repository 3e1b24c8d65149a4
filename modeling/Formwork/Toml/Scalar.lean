import Formwork.Json.Basic
import Formwork.Text.Hex
import Formwork.Toml.Moment

/-!
# Bare values of TOML

A value without quotes and brackets is a truth value, a number or a moment. No text is more than one
of them. Numbers may group their digits by underscores; a moment counts as its text.
-/

namespace Formwork.Toml

/-- The characters without underscores, each of which must stand between two digits. The flag says
that a digit stands before the characters. -/
def ungroup? (isDigit : Char → Bool) : Bool → List Char → Option (List Char)
  | _, [] => some []
  | afterDigit, c :: rest =>
    if c = '_' then
      if afterDigit ∧ rest.head?.any isDigit then ungroup? isDigit false rest else none
    else (ungroup? isDigit (isDigit c) rest).map (c :: ·)

/-- An integer of 64 bits. -/
def integer? (n : Int) : Option Json :=
  if -0x8000000000000000 ≤ n ∧ n < 0x8000000000000000 then some (.int n) else none

/-- The integer written by digits to a base. -/
def based? (base : Nat) (chars : List Char) : Option Json := do
  let isDigit := fun c => (Text.hexValue? c).any (· < base)
  let digits ← ungroup? isDigit false chars
  if digits = [] ∨ ¬digits.all isDigit then failure
  integer? (digits.foldl (fun n c => base * n + (Text.hexValue? c).getD 0) 0 : Nat)

/-- The number written by decimal digits with a sign, point or exponent. Its whole part has at least
one digit and no superfluous zero in front, and there are digits behind a point. A number beyond the
greatest fractional number is refused. -/
def decimal? (chars : List Char) : Option Json := do
  let parts ← Decimal.Parts.ofChars? (← ungroup? Char.isDigit false chars)
  if parts.whole = [] ∨ parts.fraction = some [] then failure
  if parts.whole.head? = some '0' ∧ parts.whole.length ≠ 1 then failure
  match parts.fraction, parts.exponent with
  | none, none =>
    let n : Int := Decimal.natOfDigits parts.whole
    integer? (if parts.negative then -n else n)
  | _, _ =>
    if parts.value = .infinity false then failure else return .float parts.value

/-- The value named by a word. -/
def named? : List Char → Option Json
  | ['t', 'r', 'u', 'e'] => some (.bool true)
  | ['f', 'a', 'l', 's', 'e'] => some (.bool false)
  | '-' :: word => (special? true word).map .float
  | '+' :: word => (special? false word).map .float
  | word => (special? false word).map .float
where
  /-- The values that have no digits. -/
  special? (negative : Bool) : List Char → Option Binary64
    | ['i', 'n', 'f'] => some (.infinity negative)
    | ['n', 'a', 'n'] => some .notANumber
    | _ => none

/-- The value written without quotes and brackets. -/
def scalar? (chars : List Char) : Option Json :=
  match chars with
  | '0' :: 'x' :: digits => based? 16 digits
  | '0' :: 'o' :: digits => based? 8 digits
  | '0' :: 'b' :: digits => based? 2 digits
  | chars =>
    (named? chars <|> decimal? chars) <|>
      (Moment.ofChars? chars).map fun moment => .string moment.text

end Formwork.Toml
