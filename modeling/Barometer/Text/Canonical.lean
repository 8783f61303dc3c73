import Barometer.Text.Blank
import Barometer.Text.Case
import Barometer.Text.Compatibility

/-!
# Canonical texts

Free-text answers are compared without regard to case, quotes, invisible characters and the width
of blanks.  The canonical form of a text is its compatibility form in lower case, with quotes read
as blanks, invisible characters dropped, and one space between words; a text without words has none.
-/

namespace Barometer.Text.Canonical

def isControl (c : Char) : Bool :=
  decide (c.toNat < 32) || decide (127 ≤ c.toNat ∧ c.toNat < 160)

/-- Invisible characters besides controls: soft hyphen, marks of direction, joiners, fillers. -/
def invisibleRanges : List (Nat × Nat) :=
  [(0xAD, 0xAD), (0x61C, 0x61C), (0x180E, 0x180E), (0x200B, 0x200F), (0x202A, 0x202E),
    (0x2060, 0x2064), (0x2066, 0x206F), (0xFEFF, 0xFEFF), (0xFFF9, 0xFFFB)]

def isInvisible (c : Char) : Bool :=
  isControl c || Table.covers invisibleRanges c

/-- Quotes, tabs and line ends separate words. -/
def soften (c : Char) : Char :=
  if c = '\r' ∨ c = '\n' ∨ c = '\t' ∨ c = '\x27' ∨ c = '"' then ' ' else c

/-- The words of a text. -/
def words (s : List Char) : List (List Char) :=
  (splitWhen isBlank s).filter fun word ↦ !word.isEmpty

/-- Words with one space between them. -/
def joined (ws : List (List Char)) : List Char :=
  [' '].intercalate ws

/-- The visible characters of a text, in compatibility form and lower case. -/
def folded (s : List Char) : List Char :=
  lowerAfter [] (((Compatibility.normalForm s).map soften).filter fun c ↦ !isInvisible c)

/-- The canonical form; none for a text without words. -/
def text? (s : String) : Option String :=
  match joined (words (folded s.toList)) with
  | [] => none
  | form => some (String.ofList form)

end Barometer.Text.Canonical
