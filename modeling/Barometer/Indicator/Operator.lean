import Barometer.Text.Blank
import Barometer.Text.Case

/-!
# Operators and functions of indicators

Each kind of operator has a reader for its written names.  Blanks around a name do not matter; the
case of letters does not matter either.
-/

namespace Barometer

/-- A name without the blanks around it. -/
def trimmed (name : String) : String :=
  String.ofList (Text.trimBlanks name.toList)

/-- Whether a name is made of blanks only. -/
def isBlankName (name : String) : Bool :=
  name.toList.all Text.isBlank

inductive Arithmetic where
  | add
  | sub
  | mul
  | div
  | mod
  | concat
deriving DecidableEq, Repr

namespace Arithmetic

/-- The sign of an operator, in indicators as in SQL. -/
def sign : Arithmetic → String
  | .add => "+"
  | .sub => "-"
  | .mul => "*"
  | .div => "/"
  | .mod => "%"
  | .concat => "||"

def all : List Arithmetic := [.add, .sub, .mul, .div, .mod, .concat]

def ofName? (name : String) : Option Arithmetic :=
  all.find? fun op ↦ op.sign = trimmed name

end Arithmetic

inductive Comparison where
  | eq
  | ne
  | lt
  | lte
  | gt
  | gte
  | like
  | notLike
deriving DecidableEq, Repr

namespace Comparison

def ofName? (name : String) : Option Comparison :=
  match trimmed name with
  | "=" => some .eq
  | "==" => some .eq
  | "!=" => some .ne
  | "<>" => some .ne
  | "<" => some .lt
  | "<=" => some .lte
  | ">" => some .gt
  | ">=" => some .gte
  | key =>
    match Text.lower key with
    | "like" => some .like
    | "not_like" => some .notLike
    | _ => none

/-- Equality and inequality turn into pattern matches when an operand has a wildcard. -/
def isEquality : Comparison → Bool
  | .eq => true
  | .ne => true
  | _ => false

end Comparison

/-- The aggregate functions. -/
inductive Statistic where
  | count
  | countDistinct
  | sum
  | avg
  | min
  | max
deriving DecidableEq, Repr

namespace Statistic

def ofName? (name : String) : Option Statistic :=
  match Text.lower (trimmed name) with
  | "count" => some .count
  | "count_distinct" => some .countDistinct
  | "sum" => some .sum
  | "avg" => some .avg
  | "min" => some .min
  | "max" => some .max
  | _ => none

/-- The name of the SQL function. -/
def sqlName : Statistic → String
  | .count => "COUNT"
  | .countDistinct => "COUNT"
  | .sum => "SUM"
  | .avg => "AVG"
  | .min => "MIN"
  | .max => "MAX"

/-- Whether rows can be counted without naming a column. -/
def isCount : Statistic → Bool
  | .count => true
  | _ => false

end Statistic

end Barometer
