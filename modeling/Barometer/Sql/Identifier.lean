/-!
# Names and texts in SQL

A name of ASCII letters, digits and underscores that does not begin with a digit is written as it
is, and so are two such names with a point between them, the number one and the star.  Every other
name stands between double quotes, and every text between single quotes; a quote inside is doubled.
-/

namespace Barometer.Sql

def isNameStart (c : Char) : Bool := c.isAlpha || c == '_'

def isNameCharacter (c : Char) : Bool := c.isAlphanum || c == '_'

/-- Whether a text is one name that needs no quotes. -/
def isSimpleName : List Char → Bool
  | [] => false
  | c :: rest => isNameStart c && rest.all isNameCharacter

/-- Whether a text is written without quotes where a name stands. -/
def isPlain (name : String) : Bool :=
  let s := name.toList
  let head := s.takeWhile (· != '.')
  match s.dropWhile (· != '.') with
  | [] => isSimpleName head || s == ['1'] || s == ['*']
  | _ :: rest => isSimpleName head && isSimpleName rest

/-- Doubles each occurrence of `quote`. -/
def doubled (quote : Char) : List Char → List Char
  | [] => []
  | c :: rest => if c = quote then c :: c :: doubled quote rest else c :: doubled quote rest

/-- A text between quotes. -/
def enclosed (quote : Char) (s : String) : String :=
  String.ofList (quote :: doubled quote s.toList ++ [quote])

/-- A name between double quotes. -/
def quotedName (name : String) : String := enclosed '"' name

/-- A text literal. -/
def quotedText (s : String) : String := enclosed '\x27' s

/-- A name where one stands in a statement. -/
def nameText (name : String) : String :=
  if isPlain name then name else quotedName name

end Barometer.Sql
