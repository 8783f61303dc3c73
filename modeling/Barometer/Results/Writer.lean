import Barometer.Results.ResultSet

/-!
# Writing records one by one

A writer adds records to a text.  The first record says how many fields each one has: at a record
of another length the writer stops, before the end of its line.
-/

namespace Barometer

namespace Csv

/-- Why a writer stops. -/
inductive Fault where
  | separator (c : Char)
  | unequal (expected found : Nat)
deriving DecidableEq

def Fault.message : Fault → String
  | .separator c => refusal c
  | .unequal expected found =>
    "CSV write failed: CSV error: found record with " ++ toString found ++
      " fields, but the previous record has " ++ toString expected ++ " fields"

/-- The text so far, and how many fields its first record has. -/
structure Output where
  text : String
  width : Option Nat

/-- A writer of records. -/
abbrev Writer := EStateM Fault Output

namespace Writer

/-- A new writer goes on with a text that others have written. -/
def begin : Writer Unit := modify fun out ↦ { out with width := none }

def put (chars : List Char) : Writer Unit :=
  modify fun out ↦ { out with text := out.text ++ String.ofList chars }

def checkWidth (found : Nat) : Writer Unit := do
  match (← get).width with
  | none => modify fun out ↦ { out with width := some found }
  | some expected => unless found = expected do throw (.unequal expected found)

/-- Ends the line of a record; one without text would look like no record. -/
def endRecord (chars : List Char) : Writer Unit :=
  put (if chars.isEmpty then ['"', '"', '\n'] else ['\n'])

def writeRecord (separator : Separator) (row : List String) : Writer Unit := do
  let chars := fields separator row
  put chars
  checkWidth row.length
  endRecord chars

end Writer

end Csv

/-- Writes a result with a given character between the fields, if it is one that separates them. -/
def ResultSet.writeCsv (delimiter : Char) (r : ResultSet) : Csv.Writer Unit := do
  match Csv.Separator.ofChar? delimiter with
  | none => throw (.separator delimiter)
  | some separator =>
    Csv.Writer.begin
    forM r.table (Csv.Writer.writeRecord separator)

end Barometer
