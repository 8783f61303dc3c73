import Barometer.Text.CaseTable

/-!
# Full case mapping

Lower and upper case of whole texts, by Unicode's full mappings without any language's own rules.
Capital sigma is the one letter whose lower case depends on its neighbours: it ends a word when a
cased letter stands before it and none after it, characters that case ignores left aside.
-/

namespace Barometer.Text

/-- Lower case of a letter that does not depend on its neighbours. -/
def lowerLetter (c : Char) : List Char :=
  if c.toNat < 128 then [c.toLower]
  else if c.toNat = 0x130 then ['i', Char.ofNat 0x307]
  else [((Table.image? lowerRuns c).map Char.ofNat).getD c]

def upperLetter (c : Char) : List Char :=
  if c.toNat < 128 then [c.toUpper]
  else match upperExpansions.lookup c.toNat with
    | some expansion => expansion
    | none => [((Table.image? upperRuns c).map Char.ofNat).getD c]

/-- Whether the first character that case does not ignore has case. -/
def startsCased (s : List Char) : Bool :=
  match s.dropWhile (Table.covers caseIgnorableRanges) with
  | c :: _ => Table.covers casedRanges c
  | [] => false

/-- The lower case of `rest`, where `seen` holds the characters before it, the nearest first. -/
def lowerAfter (seen : List Char) : List Char → List Char
  | [] => []
  | c :: rest =>
    (if c = 'Σ' then
      [if startsCased seen && !startsCased rest then 'ς' else 'σ']
    else lowerLetter c) ++ lowerAfter (c :: seen) rest

def lower (s : String) : String :=
  String.ofList (lowerAfter [] s.toList)

def upper (s : String) : String :=
  String.ofList (s.toList.flatMap upperLetter)

end Barometer.Text
