/-!
# Blank characters

A character is blank when it has the Unicode property White_Space: twenty-five code points in ten
ranges. Tag boundaries, attribute separators and every trimming rule of the library use this one
class. `Char.isWhitespace` covers four of the twenty-five and is not used.
-/

namespace Formwork.Text

/-- Closed ranges of code points, ascending and apart. -/
abbrev CodeRanges := List (Nat × Nat)

/-- A character lies in a table when its code point lies in one of the ranges. -/
def CodeRanges.covers (ranges : CodeRanges) (c : Char) : Bool :=
  ranges.any fun (low, high) => low ≤ c.toNat && c.toNat ≤ high

/-- The code points with the property White_Space. -/
def blankRanges : CodeRanges :=
  [(0x09, 0x0D), (0x20, 0x20), (0x85, 0x85), (0xA0, 0xA0), (0x1680, 0x1680), (0x2000, 0x200A),
   (0x2028, 0x2029), (0x202F, 0x202F), (0x205F, 0x205F), (0x3000, 0x3000)]

/-- A blank character. -/
def isBlank (c : Char) : Bool := blankRanges.covers c

example : (blankRanges.map fun (low, high) => high + 1 - low).sum = 25 := by decide

end Formwork.Text
