import Formwork.Decimal.Rounding

/-!
# Reading decimal text

The grammar of a decimal number is cut into sign, digits before the point, digits behind it and
exponent. JSON and free decimal text accept different subsets of the same parts.
-/

namespace Formwork.Decimal

/-- The number written by decimal digits. -/
def natOfDigits (digits : List Char) : Nat :=
  digits.foldl (fun n c => 10 * n + (c.toNat - '0'.toNat)) 0

/-- The parts of a decimal number. -/
structure Parts where
  /-- A minus sign was written. -/
  negative : Bool
  /-- A plus sign was written. -/
  explicitPlus : Bool
  /-- The digits before the point. -/
  whole : List Char
  /-- The digits behind the point, if a point was written. -/
  fraction : Option (List Char)
  /-- The exponent's sign and digits, if an exponent was written. -/
  exponent : Option (Bool × List Char)

/-- Cuts a text into the parts of a decimal number, or fails if something is left over. -/
def Parts.ofChars? (chars : List Char) : Option Parts :=
  let (negative, explicitPlus, unsigned) :=
    match chars with
    | '-' :: rest => (true, false, rest)
    | '+' :: rest => (false, true, rest)
    | rest => (false, false, rest)
  let whole := unsigned.takeWhile Char.isDigit
  let (fraction, behind) :=
    match unsigned.dropWhile Char.isDigit with
    | '.' :: rest => (some (rest.takeWhile Char.isDigit), rest.dropWhile Char.isDigit)
    | rest => (none, rest)
  match behind with
  | [] => some { negative, explicitPlus, whole, fraction, exponent := none }
  | mark :: rest =>
    if mark = 'e' ∨ mark = 'E' then
      let (down, digits) :=
        match rest with
        | '-' :: digits => (true, digits)
        | '+' :: digits => (false, digits)
        | digits => (false, digits)
      if digits ≠ [] ∧ digits.all Char.isDigit then
        some { negative, explicitPlus, whole, fraction, exponent := some (down, digits) }
      else none
    else none

/-- The number that the exponent writes. -/
def Parts.shift (parts : Parts) : Int :=
  match parts.exponent with
  | none => 0
  | some (down, digits) => if down then -(natOfDigits digits : Int) else natOfDigits digits

/-- The binary value nearest to the number. -/
def Parts.value (parts : Parts) : Binary64 :=
  let fraction := parts.fraction.getD []
  .ofDecimal parts.negative (natOfDigits (parts.whole ++ fraction)) (parts.shift - fraction.length)

/-- The value written by a free decimal text: a number with at least one digit before or behind the
point, or the name of an infinity or of the value that is no number, in any case of letters. -/
def binary64? (text : String) : Option Binary64 :=
  let unsigned :=
    match text.toList with
    | '-' :: rest => (true, rest)
    | '+' :: rest => (false, rest)
    | rest => (false, rest)
  match (String.ofList unsigned.2).toLower with
  | "inf" | "infinity" => some (.infinity unsigned.1)
  | "nan" => some .notANumber
  | _ =>
    match Parts.ofChars? text.toList with
    | some parts =>
      if parts.whole ++ parts.fraction.getD [] ≠ [] then some parts.value else none
    | none => none

end Formwork.Decimal
