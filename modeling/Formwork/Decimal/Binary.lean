/-!
# Binary floating-point values

A `Binary64` is one value of the 64-bit binary format, held by its bits, so two values can be told
apart by a decision and a signed zero or a not-a-number is a value like any other.
-/

namespace Formwork

/-- A value of the 64-bit binary floating-point format. -/
structure Binary64 where
  /-- Sign, eleven bits of exponent and fifty-two bits of fraction. -/
  bits : UInt64
deriving DecidableEq, Repr, Inhabited

namespace Binary64

/-- The sign bit is set. -/
def isNegative (value : Binary64) : Bool := value.bits >>> 63 == 1

/-- The bits of the exponent. -/
def exponentBits (value : Binary64) : Nat := ((value.bits >>> 52) &&& 0x7FF).toNat

/-- The bits of the fraction. -/
def fractionBits (value : Binary64) : Nat := (value.bits &&& 0xFFFFFFFFFFFFF).toNat

/-- The value is a number and not an infinity. -/
def isFinite (value : Binary64) : Bool := value.exponentBits != 0x7FF

/-- The value is not a number. -/
def isNotANumber (value : Binary64) : Bool := !value.isFinite && value.fractionBits != 0

/-- Infinity of the given sign. -/
def infinity (negative : Bool) : Binary64 :=
  ⟨if negative then 0xFFF0000000000000 else 0x7FF0000000000000⟩

/-- The one value that is not a number. -/
def notANumber : Binary64 := ⟨0x7FF8000000000000⟩

/-- Zero of the given sign. -/
def zero (negative : Bool) : Binary64 := ⟨if negative then 0x8000000000000000 else 0⟩

/-- The magnitude of a finite value as `significand · 2 ^ scale`. -/
structure Magnitude where
  /-- The integer factor. -/
  significand : Nat
  /-- The power of two. -/
  scale : Int
  /-- The gap to the value below is half the gap to the value above. -/
  narrowBelow : Bool
deriving DecidableEq, Repr

/-- The magnitude of a finite value. -/
def magnitude (value : Binary64) : Magnitude :=
  if value.exponentBits = 0 then ⟨value.fractionBits, -1074, false⟩
  else
    ⟨0x10000000000000 + value.fractionBits, (value.exponentBits : Int) - 1075,
      value.fractionBits = 0 ∧ 1 < value.exponentBits⟩

end Binary64

end Formwork
