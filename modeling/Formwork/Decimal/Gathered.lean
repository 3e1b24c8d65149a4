import Formwork.Decimal.Reading

/-!
# Numbers gathered in one pass

A number can be read in one pass with a significand of sixty-four bits. Digits are taken from left to
right as long as the significand holds them. Digits of the whole part that no longer fit only count
as places, digits of the fraction that no longer fit are dropped. The significand is then rounded
once and multiplied with, or divided by, a rounded power of ten. So the result is close to the number
but not always the value nearest to it, and a number close below the greatest value may be out of
range.
-/

namespace Formwork.Decimal

/-- A number as far as it was gathered: `significand · 10 ^ exponent`. -/
structure Gathered where
  /-- The digits taken, as a number below `2 ^ 64`. -/
  significand : Nat
  /-- The power of ten by which they count. -/
  exponent : Int
deriving DecidableEq, Repr

/-- Takes digits behind a significand until one does not fit: the significand reached and how many
digits were taken. -/
def takeDigits (significand : Nat) : List Char → Nat × Nat
  | [] => (significand, 0)
  | c :: rest =>
    let next := natOfDigits [c] + 10 * significand
    if next < 0x10000000000000000 then
      let (reached, count) := takeDigits next rest
      (reached, count + 1)
    else (significand, 0)

/-- What is gathered of a number. A fraction goes on with the significand that the whole part
reached, even if digits were left out in between. -/
def Parts.gathered (parts : Parts) : Gathered :=
  let (whole, wholeCount) := takeDigits 0 parts.whole
  let (significand, fractionCount) := takeDigits whole (parts.fraction.getD [])
  { significand, exponent := parts.shift + parts.whole.length - wholeCount - fractionCount }

/-- The greatest power of ten that is a finite value. -/
def greatestPower : Nat := 308

/-- The value nearest to a power of ten. -/
def powerOfTen (exponent : Nat) : Binary64 := .ofDecimal false 1 exponent

/-- The value of a gathered number. An exponent below that of the smallest power of ten takes two
divisions; after a third one nothing would be left of any significand. -/
def Gathered.value (number : Gathered) (negative : Bool) : Binary64 :=
  let significand := Binary64.ofQuotient negative number.significand 1
  let size := number.exponent.natAbs
  if number.significand = 0 then .zero negative
  else if 0 ≤ number.exponent then
    if size ≤ greatestPower then significand.product (powerOfTen size) else .infinity negative
  else if size ≤ greatestPower then significand.quotient (powerOfTen size)
  else if size ≤ 2 * greatestPower then
    (significand.quotient (powerOfTen greatestPower)).quotient (powerOfTen (size - greatestPower))
  else .zero negative

end Formwork.Decimal
