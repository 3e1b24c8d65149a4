import Formwork.Decimal.Shortest
import Formwork.Text.Basic

/-!
# Decimal text of binary values

Which digits are written is settled by `Formwork.Decimal.shortest`; a `Style` settles how they are
laid out. Two styles are in use: cell values are written positionally whatever their size, and JSON
numbers switch to an exponent outside a middle range and keep a fractional part.
-/

namespace Formwork.Decimal

/-- How selected digits are laid out. -/
structure Style where
  /-- Exponents of the leading digit that are written positionally; all of them if absent. -/
  positional : Option (Int × Int)
  /-- An integral positional number ends in `.0`. -/
  pointZero : Bool
  /-- How a tie between two shortest candidates is broken. -/
  tie : Tie
  /-- What is written for a value that is not finite: not a number, positive and negative infinity. -/
  special : String × String × String

/-- Cell values: always positional, no superfluous point. -/
def cellStyle : Style :=
  { positional := none, pointZero := false, tie := .upward, special := ("NaN", "inf", "-inf") }

/-- JSON numbers: positional while the leading digit stands between the fifth place behind the point
and the sixteenth before it. JSON has no text for a value that is not finite. -/
def jsonStyle : Style :=
  { positional := some (-5, 16), pointZero := true, tie := .toEven
    special := ("null", "null", "null") }

/-- Digits as characters, without leading zeros. -/
def digitChars (n : Nat) : List Char := Nat.toDigits 10 n

/-- A whole number in decimal digits. -/
def intChars (n : Int) : List Char :=
  if n < 0 then '-' :: digitChars n.natAbs else digitChars n.natAbs

/-- A whole number as text. -/
def intText (n : Int) : String := String.ofList (intChars n)

/-- A number that is not negative, as text. -/
def natText (n : Nat) : String := String.ofList (digitChars n)

/-- Numbers are told apart by their decimal text. -/
theorem natText_injective : Function.Injective natText := by
  intro left right same
  have digits : Nat.toDigits 10 left = Nat.toDigits 10 right := String.ofList_injective same
  have value (n : Nat) : Nat.ofDigitChars 10 (Nat.toDigits 10 n) 0 = n :=
    Nat.ofDigitChars_toDigits (by omega) (by omega)
  rw [← value left, digits, value right]

/-- A number is written with at least one digit. -/
theorem natText_ne_empty (n : Nat) : natText n ≠ "" := by
  intro none
  have digits : Nat.toDigits 10 n = [] := String.ofList_injective none
  exact Nat.toDigits_ne_nil digits

/-- Positional layout. -/
def positionalText (pointZero : Bool) (decimal : Numeral) : List Char :=
  let digits := digitChars decimal.digits
  if 0 ≤ decimal.exponent then
    digits ++ List.replicate decimal.exponent.toNat '0' ++ (if pointZero then ['.', '0'] else [])
  else
    let places := (-decimal.exponent).toNat
    if places < digits.length then
      digits.take (digits.length - places) ++ '.' :: digits.drop (digits.length - places)
    else '0' :: '.' :: List.replicate (places - digits.length) '0' ++ digits

/-- Layout with an exponent: one digit, the others behind a point, and a signed exponent. -/
def exponentText (decimal : Numeral) : List Char :=
  let digits := digitChars decimal.digits
  let leading := decimal.exponent + digits.length - 1
  let behind := if digits.length ≤ 1 then [] else '.' :: digits.drop 1
  let sign := if leading < 0 then '-' else '+'
  digits.take 1 ++ behind ++ 'e' :: sign :: digitChars leading.natAbs

/-- The text of a finite magnitude. -/
def Style.magnitudeText (style : Style) (value : Binary64.Magnitude) : List Char :=
  let decimal := if value.significand = 0 then ⟨0, 0⟩ else shortest style.tie value
  let leading := decimal.exponent + (digitChars decimal.digits).length - 1
  match style.positional with
  | none => positionalText style.pointZero decimal
  | some (low, high) =>
    if low ≤ leading ∧ leading < high then positionalText style.pointZero decimal
    else exponentText decimal

/-- The text of a value. -/
def Style.text (style : Style) (value : Binary64) : String :=
  if value.isFinite then
    String.ofList
      ((if value.isNegative then ['-'] else []) ++ style.magnitudeText value.magnitude)
  else if value.isNotANumber then style.special.1
  else if value.isNegative then style.special.2.2
  else style.special.2.1

end Formwork.Decimal
