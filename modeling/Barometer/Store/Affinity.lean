import Barometer.Store.Table

/-!
# Affinities

Before two values are compared they may be brought to one type, which depends on where they come
from: the number of a row makes numbers of texts that are numbers, and a column of texts makes texts
of numbers.  All other columns, and values that are no columns, leave values as they are.
-/

namespace Barometer.Store

inductive Affinity where
  /-- Of what is no column. -/
  | free
  /-- Of a column of any type. -/
  | any
  | text
  | number
deriving DecidableEq, Repr

/-- The affinity of a field; of all tables only the register has columns of a type. -/
def Field.affinity : Field → Affinity
  | .column table _ => if table = Database.registerName then .text else .any
  | .rowNumber _ => .number
  | .title _ => .free

namespace Affinity

/-- The affinity of a path, by the nearest field of its name. -/
def ofPath (headers : List Header) (path : List Part) : Affinity :=
  match headers.findSome? fun header ↦
      match header.find path with
      | .at i => header[i]?
      | _ => none with
  | some field => field.affinity
  | none => .free

/-- The affinity of what is written where a column stands. -/
def ofReading (headers : List Header) : Reading → Affinity
  | .path parts => ofPath headers parts
  | _ => .free

/-- The affinity of a comparison: that of its only column, or of two columns that of numbers if one
of them has it. -/
def joint : Affinity → Affinity → Affinity
  | .free, b => b
  | a, .free => a
  | .number, _ => .number
  | _, .number => .number
  | _, _ => .any

/-- A value as it takes part in a comparison. -/
def convert : Affinity → Value → Value
  | .number, .text s =>
    match Value.leadingNumber s with
    | (n, true) => n.toValue
    | (_, false) => .text s
  | .text, .int n => .text (toString n)
  | .text, .real x => .text (Value.realText x)
  | _, v => v

end Affinity

end Barometer.Store
