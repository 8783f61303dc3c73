import Barometer.Text.Table

/-!
# White space

The code points of Unicode's `White_Space` property.
-/

namespace Barometer.Text

/-- The ranges of `White_Space`. -/
def blankRanges : List (Nat × Nat) := Table.ranges
  ["9-D 20 85 A0 1680 2000-200A 2028-2029 202F 205F 3000"]

/-- Whether a character separates words. -/
def isBlank (c : Char) : Bool := Table.covers blankRanges c

/-- A text without the blanks at its two ends. -/
def trimBlanks (s : List Char) : List Char :=
  ((s.dropWhile isBlank).reverse.dropWhile isBlank).reverse

end Barometer.Text
