import Formwork.Decimal.Reading
import Formwork.Decimal.Style

/-!
# Dates and times

A moment is a date, a time of day, or both, and then perhaps with an offset from universal time.
`Moment.text` writes it in one way, whatever separators and letters it was read with: a `T` between
date and time, fractions of a second to nine digits without zeros at the end, and no negative zero
offset.
-/

namespace Formwork.Toml

/-- A day of a year. -/
structure Date where
  /-- The year, of four digits. -/
  year : Nat
  /-- The month, from 1. -/
  month : Nat
  /-- The day of the month, from 1. -/
  day : Nat
deriving DecidableEq, Repr

/-- A time of day. -/
structure Time where
  /-- Full hours. -/
  hour : Nat
  /-- Full minutes. -/
  minute : Nat
  /-- Full seconds; a minute may have a leap second. -/
  second : Nat
  /-- The digits of the fraction of a second. -/
  fraction : List Char
deriving DecidableEq, Repr

/-- The distance from universal time. -/
inductive Offset where
  /-- Universal time itself. -/
  | utc
  /-- East of it by the given minutes, or west if they are negative. -/
  | minutes (east : Int)
deriving DecidableEq, Repr

/-- A date, a time of day, or both. -/
inductive Moment where
  /-- A day. -/
  | date (date : Date)
  /-- A time on any day. -/
  | time (time : Time)
  /-- A time on a day. -/
  | dateTime (date : Date) (time : Time) (offset : Option Offset)
deriving DecidableEq, Repr

/-- Every fourth year, of full centuries every fourth. -/
def isLeapYear (year : Nat) : Bool :=
  year % 4 = 0 && (year % 100 ≠ 0 || year % 400 = 0)

/-- The number of days in a month. -/
def daysIn (year month : Nat) : Nat :=
  if month = 2 then if isLeapYear year then 29 else 28
  else if [4, 6, 9, 11].contains month then 30
  else 31

/-! ## Reading -/

/-- The number written by exactly this many digits, and what follows. -/
def digits? (count : Nat) (chars : List Char) : Option (Nat × List Char) :=
  let digits := chars.take count
  if digits.length = count ∧ digits.all Char.isDigit then
    some (Decimal.natOfDigits digits, chars.drop count)
  else none

/-- What follows one given character. -/
def behind? (c : Char) : List Char → Option (List Char)
  | [] => none
  | d :: rest => if c = d then some rest else none

/-- A date, and what follows. -/
def Date.ofChars? (chars : List Char) : Option (Date × List Char) := do
  let (year, rest) ← digits? 4 chars
  let (month, rest) ← digits? 2 (← behind? '-' rest)
  let (day, rest) ← digits? 2 (← behind? '-' rest)
  if 1 ≤ month ∧ month ≤ 12 ∧ 1 ≤ day ∧ day ≤ daysIn year month then
    return ({ year, month, day }, rest)
  else failure

/-- Full hours and minutes, and what follows. -/
def hourMinute? (chars : List Char) : Option (Nat × Nat × List Char) := do
  let (hour, rest) ← digits? 2 chars
  let (minute, rest) ← digits? 2 (← behind? ':' rest)
  if hour ≤ 23 ∧ minute ≤ 59 then return (hour, minute, rest) else failure

/-- Fractions of a second as they are kept: nine digits at most, without zeros at the end. -/
def keptFraction (digits : List Char) : List Char :=
  ((digits.take 9).reverse.dropWhile (· = '0')).reverse

/-- A time of day, and what follows. -/
def Time.ofChars? (chars : List Char) : Option (Time × List Char) := do
  let (hour, minute, rest) ← hourMinute? chars
  let (second, rest) ← digits? 2 (← behind? ':' rest)
  if 60 < second then failure
  match rest with
  | '.' :: rest =>
    let digits := rest.takeWhile Char.isDigit
    if digits = [] then failure
    return ({ hour, minute, second, fraction := keptFraction digits }, rest.dropWhile Char.isDigit)
  | rest => return ({ hour, minute, second, fraction := [] }, rest)

/-- An offset written by all of the characters. -/
def Offset.ofChars? : List Char → Option Offset
  | ['Z'] | ['z'] => some .utc
  | '+' :: rest => east? 1 rest
  | '-' :: rest => east? (-1) rest
  | _ => none
where
  /-- Hours and minutes on one side of universal time. -/
  east? (side : Int) (chars : List Char) : Option Offset :=
    match hourMinute? chars with
    | some (hour, minute, []) => some (.minutes (side * (60 * hour + minute)))
    | _ => none

/-- A moment written by all of the characters. -/
def Moment.ofChars? (chars : List Char) : Option Moment :=
  match Date.ofChars? chars with
  | some (day, []) => some (.date day)
  | some (day, separator :: rest) =>
    if separator = 'T' ∨ separator = 't' ∨ separator = ' ' then
      match Time.ofChars? rest with
      | some (clock, []) => some (.dateTime day clock none)
      | some (clock, rest) => (Offset.ofChars? rest).map fun offset => .dateTime day clock offset
      | none => none
    else none
  | none =>
    match Time.ofChars? chars with
    | some (clock, []) => some (.time clock)
    | _ => none

/-! ## Writing -/

/-- A number with zeros in front up to a width. -/
def padded (width n : Nat) : String :=
  let digits := (Decimal.natText n).toList
  String.ofList (List.replicate (width - digits.length) '0' ++ digits)

/-- The date in writing. -/
def Date.text (date : Date) : String :=
  padded 4 date.year ++ "-" ++ padded 2 date.month ++ "-" ++ padded 2 date.day

/-- The time in writing. -/
def Time.text (time : Time) : String :=
  let fraction := if time.fraction = [] then "" else "." ++ String.ofList time.fraction
  padded 2 time.hour ++ ":" ++ padded 2 time.minute ++ ":" ++ padded 2 time.second ++ fraction

/-- The offset in writing. -/
def Offset.text : Offset → String
  | .utc => "Z"
  | .minutes east =>
    let sign := if east < 0 then "-" else "+"
    sign ++ padded 2 (east.natAbs / 60) ++ ":" ++ padded 2 (east.natAbs % 60)

/-- The moment in writing. -/
def Moment.text : Moment → String
  | .date day => day.text
  | .time clock => clock.text
  | .dateTime day clock offset =>
    day.text ++ "T" ++ clock.text ++ ((offset.map Offset.text).getD "")

end Formwork.Toml
