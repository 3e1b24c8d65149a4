import Formwork.Decimal.Binary

/-!
# The fewest digits that read back

The reals that round to a binary value form an interval: from halfway to the neighbour below to
halfway to the neighbour above, ends included exactly when the significand is even. Among the
decimals in that interval the shortest are those of the coarsest power-of-ten grid with a point in
it, and one of the value's two neighbours on that grid is such a point. All comparisons are made
exactly on naturals.
-/

namespace Formwork.Decimal

open Binary64 (Magnitude)

/-- The decimal number `digits · 10 ^ exponent`. -/
structure Numeral where
  /-- The integer factor. -/
  digits : Nat
  /-- The power of ten. -/
  exponent : Int
deriving DecidableEq, Repr

/-- Which of two equally close candidates is taken. -/
inductive Tie where
  /-- The one with an even last digit. -/
  | toEven
  /-- The greater one. -/
  | upward
deriving DecidableEq, Repr

/-- Compares `a · 10 ^ i` with `b · 2 ^ j`. -/
def compareScaled (a : Nat) (i : Int) (b : Nat) (j : Int) : Ordering :=
  compare (a * Nat.pow 10 i.toNat * Nat.pow 2 (-j).toNat) (b * Nat.pow 2 j.toNat * Nat.pow 10 (-i).toNat)

/-- The decimal lies among the reals that round to the magnitude. -/
def readsBack (value : Magnitude) (decimal : Numeral) : Bool :=
  let low := if value.narrowBelow then 4 * value.significand - 1 else 4 * value.significand - 2
  let high := 4 * value.significand + 2
  let endsIncluded := value.significand % 2 == 0
  let fromLow := compareScaled decimal.digits decimal.exponent low (value.scale - 2)
  let fromHigh := compareScaled decimal.digits decimal.exponent high (value.scale - 2)
  (fromLow == .gt || (endsIncluded && fromLow == .eq)) &&
    (fromHigh == .lt || (endsIncluded && fromHigh == .eq))

/-- The least `k` near the estimate with the magnitude below `10 ^ k`. -/
def decimalScale (value : Magnitude) : Int :=
  let estimate := (((value.significand.log2 : Int) + value.scale) * 30103).fdiv 100000 - 1
  let exceeds (k : Int) : Bool := compareScaled 1 k value.significand value.scale == .gt
  ([estimate, estimate + 1, estimate + 2, estimate + 3].find? exceeds).getD (estimate + 4)

/-- The shortest decimal with the given power of ten that reads back, if one does. -/
def onGrid? (tie : Tie) (value : Magnitude) (exponent : Int) : Option Numeral :=
  let numerator := value.significand * Nat.pow 2 value.scale.toNat * Nat.pow 10 (-exponent).toNat
  let denominator := Nat.pow 2 (-value.scale).toNat * Nat.pow 10 exponent.toNat
  let below := numerator / denominator
  let lower : Numeral := ⟨below, exponent⟩
  let upper : Numeral := ⟨below + 1, exponent⟩
  match readsBack value lower, readsBack value upper with
  | false, false => none
  | true, false => some lower
  | false, true => some upper
  | true, true =>
    match compare (2 * numerator) ((2 * below + 1) * denominator), tie with
    | .lt, _ => some lower
    | .gt, _ => some upper
    | .eq, .upward => some upper
    | .eq, .toEven => some (if below % 2 = 0 then lower else upper)

/-- Moves trailing zeros of the digits into the exponent. -/
def stripZeros : Nat → Numeral → Numeral
  | 0, decimal => decimal
  | bound + 1, decimal =>
    if decimal.digits ≠ 0 ∧ decimal.digits % 10 = 0 then
      stripZeros bound ⟨decimal.digits / 10, decimal.exponent + 1⟩
    else decimal

/-- The shortest decimal that reads back to a nonzero magnitude, without trailing zeros. Seventeen
digits always suffice; were none found, the exact value would be given. -/
def shortest (tie : Tie) (value : Magnitude) : Numeral :=
  let scale := decimalScale value
  let candidates := (List.range 17).map fun count => scale - (count + 1 : Nat)
  let exact : Numeral :=
    ⟨value.significand * Nat.pow 2 value.scale.toNat * Nat.pow 5 (-value.scale).toNat, min value.scale 0⟩
  let found := (candidates.findSome? (onGrid? tie value)).getD exact
  stripZeros found.digits.log2 found

end Formwork.Decimal
