import Barometer.Indicator.Operator
import Barometer.Store.Value

/-!
# Calculations

Integers stay integers unless the result has more than 64 bits; any real operand makes a real.
Nothing can be calculated from a missing value, and nothing can be divided by zero.
-/

namespace Barometer.Store

open Value (Quantity)

/-- An operator on quantities, exact on integers as long as the result fits. -/
def calculate (exact : Int → Int → Int) (real : Float → Float → Float) (a b : Quantity) : Value :=
  match a.exact, b.exact with
  | some m, some n =>
    if fits (exact m n) then .int (exact m n) else Value.ofReal (real a.real b.real)
  | _, _ => Value.ofReal (real a.real b.real)

/-- Division; of integers it goes toward zero. -/
def divide (a b : Quantity) : Value :=
  match a.exact, b.exact with
  | some _, some n => if n = 0 then .null else calculate Int.tdiv (· / ·) a b
  | _, _ => if b.real == 0 then .null else Value.ofReal (a.real / b.real)

/-- The remainder of the integers, with the sign of the dividend. -/
def remainder (a b : Quantity) : Value :=
  match a.exact, b.exact with
  | some m, some n => if n = 0 then .null else .int (Int.tmod m n)
  | _, _ => if b.whole = 0 then .null else .real (Float.ofInt (Int.tmod a.whole b.whole))

/-- A function of two quantities on values; missing if one of them is. -/
def onQuantities (f : Quantity → Quantity → Value) (a b : Value) : Value :=
  match a.quantity?, b.quantity? with
  | some x, some y => f x y
  | _, _ => .null

/-- The text of one value and then that of another; octets are joined as octets. -/
def joinTexts (a b : Value) : Value :=
  match a, b with
  | .blob s, .blob t => .text (Text.Utf8.decode (s ++ t))
  | .blob s, b =>
    (b.text?.map fun t ↦ Text.Utf8.decode (s ++ Text.Utf8.encode t)).elim .null .text
  | a, .blob t =>
    (a.text?.map fun s ↦ Text.Utf8.decode (Text.Utf8.encode s ++ t)).elim .null .text
  | a, b =>
    match a.text?, b.text? with
    | some s, some t => .text (s ++ t)
    | _, _ => .null

/-- An operator on two values. -/
def operate : Arithmetic → Value → Value → Value
  | .add => onQuantities (calculate (· + ·) (· + ·))
  | .sub => onQuantities (calculate (· - ·) (· - ·))
  | .mul => onQuantities (calculate (· * ·) (· * ·))
  | .div => onQuantities divide
  | .mod => onQuantities remainder
  | .concat => joinTexts

/-- An operator on any number of values, from left to right. -/
def operateAll (op : Arithmetic) : List Value → Value
  | [] => .null
  | first :: rest => rest.foldl (operate op) first

end Barometer.Store
