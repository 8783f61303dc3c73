import Barometer.Text.Alphanumeric

/-!
# References to variables

In a text `$NAME` and `${NAME}` stand for the values of variables.  A name without braces is as long
as letters, digits and underscores go on; one in braces goes on to the closing brace, or to the end.
A reference without a name is a dollar sign.
-/

namespace Barometer.Expansion

/-- A piece of a text: a character, or a reference to a variable. -/
inductive Piece where
  | char (c : Char)
  | reference (name : String)
deriving DecidableEq, Repr

def isNamePart (c : Char) : Bool := Text.isAlphanumeric c || c == '_'

/-- What a dollar sign begins, given the name after it. -/
def ofName (name : List Char) : Piece :=
  if name.isEmpty then .char '$' else .reference (String.ofList name)

/-- The name after a dollar sign, and the rest of the text. -/
def readName (s : List Char) : List Char × List Char :=
  match s with
  | '\x7b' :: rest =>
    (rest.takeWhile (· != '\x7d'), (rest.dropWhile (· != '\x7d')).drop 1)
  | _ => (s.takeWhile isNamePart, s.dropWhile isNamePart)

theorem readName_length_le (s : List Char) : (readName s).2.length ≤ s.length := by
  have dropped (p : Char → Bool) (t : List Char) : (t.dropWhile p).length ≤ t.length :=
    (List.dropWhile_sublist p).length_le
  unfold readName
  split
  · rename_i rest
    have := dropped (· != '\x7d') rest
    simp only [List.length_drop, List.length_cons]
    omega
  · exact dropped _ s

/-- The pieces of a text. -/
def pieces : List Char → List Piece
  | [] => []
  | c :: rest =>
    if c = '$' then ofName (readName rest).1 :: pieces (readName rest).2
    else .char c :: pieces rest
termination_by s => s.length
decreasing_by
  all_goals have := readName_length_le rest
  all_goals simp only [List.length_cons]
  all_goals omega

/-- The names that a text refers to. -/
def names (s : String) : List String :=
  (pieces s.toList).filterMap fun
    | .char _ => none
    | .reference name => some name

/-- The text of a piece, or the name that is missing. -/
def Piece.expand (valueOf : String → Option String) : Piece → Except String (List Char)
  | .char c => .ok [c]
  | .reference name =>
    match valueOf name with
    | some text => .ok text.toList
    | none => .error name

/-- Replaces the references of a text; the first name that is missing stops it. -/
def expand (valueOf : String → Option String) (s : String) : Except String String := do
  let parts ← (pieces s.toList).mapM (Piece.expand valueOf)
  return String.ofList parts.flatten

end Barometer.Expansion
