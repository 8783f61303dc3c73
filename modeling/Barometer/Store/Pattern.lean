/-!
# Text patterns

In a pattern `%` stands for any text and `_` for any one character.  ASCII letters match in either
case.
-/

namespace Barometer.Store.Pattern

/-- Whether a test holds of some end of a text, the whole and the empty one included. -/
def anySuffix (test : List Char → Bool) : List Char → Bool
  | [] => test []
  | c :: rest => test (c :: rest) || anySuffix test rest

/-- Whether a text is one character and an end that passes a test. -/
def oneThen (fits : Char → Bool) (test : List Char → Bool) : List Char → Bool
  | [] => false
  | c :: rest => fits c && test rest

/-- Whether a text is an instance of a pattern. -/
def accepts : List Char → List Char → Bool
  | [] => List.isEmpty
  | c :: pattern =>
    if c = '%' then anySuffix (accepts pattern)
    else oneThen (fun d ↦ c == '_' || c.toLower == d.toLower) (accepts pattern)

/-- A text up to its first zero character, which is all that a match looks at. -/
def visible (s : String) : List Char := s.toList.takeWhile fun c ↦ c.toNat != 0

/-- Whether a text is an instance of a pattern, both as far as a match looks at them. -/
def textMatches (pattern text : String) : Bool := accepts (visible pattern) (visible text)

end Barometer.Store.Pattern
