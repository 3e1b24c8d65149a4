import Formwork.Decimal.Binary

/-!
# Rounding to binary values

A quotient of natural numbers is rounded to the nearest value of the 64-bit format, a tie going to
the neighbour with the even fraction. Decimal numbers, products and quotients of finite values are
such quotients, so the one rounding serves them all and every step is exact arithmetic before it.
-/

namespace Formwork

/-- The natural number nearest to a quotient, a tie going to the even neighbour. -/
def roundQuotient (numerator denominator : Nat) : Nat :=
  let below := numerator / denominator
  let rest := 2 * (numerator % denominator)
  if rest < denominator then below
  else if denominator < rest then below + 1
  else below + below % 2

/-- A tie keeps an even quotient and leaves an odd one. -/
example : (roundQuotient 5 2, roundQuotient 7 2, roundQuotient 8 3) = (2, 4, 3) := by decide

namespace Binary64

/-- The power of two that the last place of a quotient counts: the quotient has fifty-three places,
or fewer where it is too small for that. -/
def lastPlace (numerator denominator : Nat) : Int :=
  let top : Int := numerator.log2 - denominator.log2
  let reached :=
    if 0 ≤ top then denominator * Nat.pow 2 top.toNat ≤ numerator
    else denominator ≤ numerator * Nat.pow 2 (-top).toNat
  max (if reached then top - 52 else top - 53) (-1074)

/-- The value nearest to a quotient of natural numbers, with the given sign. Its last places are
counted from the smallest positive value upwards, so a quotient that rounds up to the next power of
two carries into the exponent by itself. -/
def ofQuotient (negative : Bool) (numerator denominator : Nat) : Binary64 :=
  let place := lastPlace numerator denominator
  let units :=
    if 0 ≤ place then roundQuotient numerator (denominator * Nat.pow 2 place.toNat)
    else roundQuotient (numerator * Nat.pow 2 (-place).toNat) denominator
  let magnitude := (place + 1074).toNat * 0x10000000000000 + units
  if numerator = 0 then zero negative
  else if 0x7FF0000000000000 ≤ magnitude then infinity negative
  else ⟨UInt64.ofNat (if negative then 0x8000000000000000 + magnitude else magnitude)⟩

/-- The value nearest to `digits · 10 ^ exponent`. Magnitudes from about `10 ^ 309` up become
infinite and those below about `10 ^ -324` become zero; the bounds tested first only keep the powers
of ten small. -/
def ofDecimal (negative : Bool) (digits : Nat) (exponent : Int) : Binary64 :=
  let leading := (Nat.toDigits 10 digits).length + exponent
  if digits = 0 then zero negative
  else if leading > 400 then infinity negative
  else if leading < -400 then zero negative
  else if 0 ≤ exponent then ofQuotient negative (digits * Nat.pow 10 exponent.toNat) 1
  else ofQuotient negative digits (Nat.pow 10 (-exponent).toNat)

/-- The numerator of the magnitude of a finite value, written as a quotient. -/
def numerator (value : Binary64) : Nat :=
  value.magnitude.significand * Nat.pow 2 value.magnitude.scale.toNat

/-- The denominator of the magnitude of a finite value, written as a quotient. -/
def denominator (value : Binary64) : Nat := Nat.pow 2 (-value.magnitude.scale).toNat

/-- The value nearest to the product of two finite values. -/
def product (left right : Binary64) : Binary64 :=
  ofQuotient (left.isNegative != right.isNegative) (left.numerator * right.numerator)
    (left.denominator * right.denominator)

/-- The value nearest to the quotient of two finite values, the second of which is not zero. -/
def quotient (left right : Binary64) : Binary64 :=
  ofQuotient (left.isNegative != right.isNegative) (left.numerator * right.denominator)
    (left.denominator * right.numerator)

end Binary64

end Formwork
