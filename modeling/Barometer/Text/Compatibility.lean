import Barometer.Text.DecompositionTable
import Barometer.Text.CompositionTable

/-!
# Normalization form KC

Characters that differ only in presentation get one spelling: each is decomposed in full, marks are
put into the order of their combining classes, and what can be composed canonically is composed.
-/

namespace Barometer.Text.Compatibility

def hangulBase : Nat := 0xAC00
def leadBase : Nat := 0x1100
def vowelBase : Nat := 0x1161
def tailBase : Nat := 0x11A7

/-- A syllable is a lead, a vowel and possibly a tail: 19 leads, 21 vowels, 27 tails or none. -/
def hangulParts? (c : Char) : Option (List Char) :=
  if c.toNat < hangulBase ∨ hangulBase + 19 * 21 * 28 ≤ c.toNat then none
  else
    let index := c.toNat - hangulBase
    let tail := index % 28
    some ([Char.ofNat (leadBase + index / 588), Char.ofNat (vowelBase + index % 588 / 28)] ++
      if tail = 0 then [] else [Char.ofNat (tailBase + tail)])

def composeHangul? (a b : Char) : Option Char :=
  if leadBase ≤ a.toNat ∧ a.toNat < leadBase + 19 ∧
      vowelBase ≤ b.toNat ∧ b.toNat < vowelBase + 21 then
    some (Char.ofNat (hangulBase + ((a.toNat - leadBase) * 21 + (b.toNat - vowelBase)) * 28))
  else if hangulBase ≤ a.toNat ∧ a.toNat < hangulBase + 19 * 21 * 28 ∧
      (a.toNat - hangulBase) % 28 = 0 ∧ tailBase < b.toNat ∧ b.toNat < tailBase + 28 then
    some (Char.ofNat (a.toNat + (b.toNat - tailBase)))
  else none

/-- The full compatibility decomposition of a character. -/
def parts (c : Char) : List Char :=
  if c.toNat < 0xA0 then [c]
  else match hangulParts? c with
    | some jamo => jamo
    | none =>
      match decompositionPages.lookup (c.toNat / 256) with
      | none => [c]
      | some page => ((Table.expansions page).lookup c.toNat).getD [c]

/-- The canonical combining class. -/
def combiningClass (c : Char) : Nat :=
  if c.toNat < 0x300 then 0 else (Table.image? combiningRuns c).getD 0

/-- Puts a mark before the first character of `rest` that it may not pass. -/
def place (c : Char) (rest : List Char) : List Char :=
  match rest with
  | [] => [c]
  | d :: ds =>
    if combiningClass d = 0 ∨ combiningClass c ≤ combiningClass d then c :: d :: ds
    else d :: place c ds

/-- Each run of marks in the order of their classes, marks of one class in their old order. -/
def order : List Char → List Char
  | [] => []
  | c :: rest => if combiningClass c = 0 then c :: order rest else place c (order rest)

/-- The canonical composite of two characters. -/
def compose? (a b : Char) : Option Char :=
  match composeHangul? a b with
  | some syllable => some syllable
  | none =>
    match compositionPages.lookup b.toNat with
    | none => none
    | some page => ((Table.expansions page).lookup a.toNat).bind List.head?

/-- The composed form of a starter, the marks kept after it (the last one first) and the rest.  A
character is composed with the starter unless a mark of the same or a higher class, or any mark for
a character of class zero, stands between. -/
def composeFrom (starter : Char) (kept : List Char) : List Char → List Char
  | [] => starter :: kept.reverse
  | c :: rest =>
    let blocked := match kept with
      | [] => false
      | mark :: _ => decide (combiningClass c ≤ combiningClass mark)
    match if blocked then none else compose? starter c with
    | some composite => composeFrom composite kept rest
    | none =>
      if combiningClass c = 0 then starter :: kept.reverse ++ composeFrom c [] rest
      else composeFrom starter (c :: kept) rest

/-- Marks before the first starter stay as they are. -/
def composeAll : List Char → List Char
  | [] => []
  | c :: rest => if combiningClass c = 0 then composeFrom c [] rest else c :: composeAll rest

/-- Normalization form KC of a text. -/
def normalForm (s : List Char) : List Char :=
  composeAll (order (s.flatMap parts))

end Barometer.Text.Compatibility
