import Barometer.Indicator.Operator
import Barometer.Store.Fault
import Barometer.Store.Value

/-!
# Aggregates of values

Missing values do not count.  A sum of integers is an integer and must have at most 64 bits; with a
real among them the sum is real, and rounding errors are collected on the way and added at the end.
-/

namespace Barometer.Store

open Value (Number)

/-- A sum in the making. -/
inductive Total where
  | exact (sum : Int)
  /-- A sum of reals and the error made so far; whether integers alone were too many. -/
  | rounded (sum error : Float) (overflow : Bool)

namespace Total

/-- Integers from here on may not be doubles. -/
def exactLimit : Int := 4503599627370496

/-- An integer as a multiple of a power of two, and the rest. -/
def parts (n : Int) : Float × Float :=
  if n ≤ -exactLimit ∨ exactLimit ≤ n then
    (Float.ofInt (n - Int.tmod n 16384), Float.ofInt (Int.tmod n 16384))
  else (Float.ofInt n, 0)

/-- Adds a real, and the part of it that was lost to the error. -/
def addReal (sum error x : Float) : Float × Float :=
  let t := sum + x
  (t, error + (if x.abs < sum.abs then (sum - t) + x else (x - t) + sum))

/-- Adds an integer, in two parts if it is large. -/
def addInt (sum error : Float) (n : Int) : Float × Float :=
  let (large, small) := parts n
  let (s, e) := addReal sum error large
  if n ≤ -exactLimit ∨ exactLimit ≤ n then addReal s e small else (s, e)

def add : Total → Number → Total
  | .exact sum, .int n =>
    if fits (sum + n) then .exact (sum + n)
    else
      let (s, e) := parts sum
      let (s, e) := addInt s e n
      .rounded s e true
  | .exact sum, .real x =>
    let (s, e) := parts sum
    let (s, e) := addReal s e x
    .rounded s e false
  | .rounded s e overflow, .int n =>
    let (s, e) := addInt s e n
    .rounded s e overflow
  | .rounded s e _, .real x =>
    let (s, e) := addReal s e x
    .rounded s e false

/-- The sum of numbers, from left to right. -/
def ofList (numbers : List Number) : Total := numbers.foldl add (.exact 0)

/-- The sum with its error, unless the error is infinite or worse. -/
def corrected (sum error : Float) : Float :=
  if error.isFinite then sum + error else sum

def toFloat : Total → Float
  | .exact n => Float.ofInt n
  | .rounded s e _ => corrected s e

end Total

def sumOf (values : List Value) : Except Cause Value :=
  match values.filterMap Value.summand? with
  | [] => .ok .null
  | numbers =>
    match Total.ofList numbers with
    | .exact n => .ok (.int n)
    | .rounded s e overflow =>
      if overflow then .error .overflow else .ok (Value.ofReal (Total.corrected s e))

def averageOf (values : List Value) : Value :=
  match values.filterMap Value.summand? with
  | [] => .null
  | numbers => Value.ofReal ((Total.ofList numbers).toFloat / Float.ofNat numbers.length)

def countOf (values : List Value) : Nat := (values.filter fun v ↦ !v.isNull).length

/-- Each value once; values that compare as equal are one. -/
def distinctValues (values : List Value) : List Value :=
  values.foldl (fun seen v ↦
    if seen.any fun w ↦ w.compare v == .eq then seen else seen ++ [v]) []

/-- Whether a value takes the place of the best one so far; the first of equal values stays. -/
def improves (wanted : Ordering) (best v : Value) : Bool :=
  !v.isNull && (best.isNull || v.compare best == wanted)

/-- The least or the greatest value. -/
def extremeOf (wanted : Ordering) (values : List Value) : Value :=
  values.foldl (fun best v ↦ if improves wanted best v then v else best) .null

end Barometer.Store

namespace Barometer.Statistic

open Store (Value Cause)

/-- The order in which a new value must stand to the best one to replace it. -/
def wanted? : Statistic → Option Ordering
  | .min => some .lt
  | .max => some .gt
  | _ => none

/-- The function that a call stands for. -/
def ofCall? (function : String) (distinct : Bool) : Option Statistic :=
  if distinct then (if function = countDistinct.sqlName then some .countDistinct else none)
  else [count, .sum, .avg, .min, .max].find? fun s ↦ s.sqlName = function

/-- The aggregate of a list of values. -/
def apply (statistic : Statistic) (values : List Value) : Except Cause Value :=
  match statistic with
  | .count => .ok (.int (Store.countOf values))
  | .countDistinct => .ok (.int (Store.countOf (Store.distinctValues values)))
  | .sum => Store.sumOf values
  | .avg => .ok (Store.averageOf values)
  | .min => .ok (Store.extremeOf .lt values)
  | .max => .ok (Store.extremeOf .gt values)

end Barometer.Statistic
