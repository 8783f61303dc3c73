/-!
# Tables of code points

Properties of characters are written down as short hexadecimal texts: `41-5A` is a range of code
points and `61` a single one, and spaces separate the entries of a line.  This module reads such
lines.
-/

namespace Barometer.Text

/-- The parts of a text between the characters that satisfy `p`. -/
def splitWhen (p : Char → Bool) : List Char → List (List Char)
  | [] => [[]]
  | c :: cs =>
    match splitWhen p cs with
    | [] => [[c]]
    | first :: rest => if p c then [] :: first :: rest else (c :: first) :: rest

namespace Table

/-- The value of a hexadecimal digit. -/
def digit (c : Char) : Nat :=
  if c.toNat < 58 then c.toNat - 48 else c.toNat - 55

def number (digits : List Char) : Nat :=
  digits.foldl (fun n c ↦ 16 * n + digit c) 0

def entries (lines : List String) : List (List Char) :=
  lines.flatMap fun line ↦ splitWhen (· == ' ') line.toList

/-- The first and the last code point of an entry. -/
def range (entry : List Char) : Nat × Nat :=
  match splitWhen (· == '-') entry with
  | [first, last] => (number first, number last)
  | _ => (number entry, number entry)

def ranges (lines : List String) : List (Nat × Nat) :=
  (entries lines).map range

/-- Whether a character lies in one of the ranges. -/
def covers (table : List (Nat × Nat)) (c : Char) : Bool :=
  table.any fun r ↦ decide (r.1 ≤ c.toNat) && decide (c.toNat ≤ r.2)

/-- A run of code points in arithmetic progression, and the image of its first member.  The images
progress with the members; with step zero every member of the range has the same image. -/
structure Run where
  first : Nat
  last : Nat
  step : Nat
  image : Nat

namespace Run

def read (entry : List Char) : Run :=
  match splitWhen (· == '.') entry with
  | [bounds, step, image] =>
    { first := (range bounds).1
      last := (range bounds).2
      step := number step
      image := number image }
  | _ => { first := 0, last := 0, step := 1, image := 0 }

/-- The image of a code point, if it belongs to the run. -/
def at? (run : Run) (n : Nat) : Option Nat :=
  if n < run.first ∨ run.last < n then none
  else if run.step = 0 then some run.image
  else if (n - run.first) % run.step = 0 then some (run.image + (n - run.first))
  else none

end Run

def runs (lines : List String) : List Run :=
  (entries lines).map Run.read

/-- The image of a character in the first run that holds it. -/
def image? (table : List Run) (c : Char) : Option Nat :=
  table.findSome? fun run ↦ run.at? c.toNat

/-- An entry such as `DF:53.53`: a code point and the characters it stands for. -/
def expansion (entry : List Char) : Nat × List Char :=
  match splitWhen (· == ':') entry with
  | [code, characters] =>
    (number code, (splitWhen (· == '.') characters).map fun s ↦ Char.ofNat (number s))
  | _ => (0, [])

def expansions (lines : List String) : List (Nat × List Char) :=
  (entries lines).map expansion

end Table

end Barometer.Text
