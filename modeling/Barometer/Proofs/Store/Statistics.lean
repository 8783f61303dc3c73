import Barometer.Store.Statistics

/-!
# Aggregates and missing values

Each aggregate of a list of values is that of the values in it that are not missing. So an aggregate
over all rows, of values that are missing where a condition does not hold, is an aggregate over the
rows where it holds.
-/

namespace Barometer.Store

/-- The values that are not missing. -/
def present (values : List Value) : List Value := values.filter fun v ↦ !v.isNull

theorem present_cons_of_isNull {v : Value} (h : v.isNull = true) (values : List Value) :
    present (v :: values) = present values :=
  List.filter_cons_of_neg (by simp [h])

theorem present_cons_of_not_isNull {v : Value} (h : v.isNull = false) (values : List Value) :
    present (v :: values) = v :: present values :=
  List.filter_cons_of_pos (by simp [h])

theorem present_present (values : List Value) : present (present values) = present values := by
  simp [present]

theorem Value.summand?_of_isNull {v : Value} (h : v.isNull = true) : v.summand? = none := by
  cases v with
  | null => rfl
  | _ => cases h

theorem filterMap_summand?_present (values : List Value) :
    (present values).filterMap Value.summand? = values.filterMap Value.summand? := by
  induction values with
  | nil => rfl
  | cons v rest ih =>
    cases hv : v.isNull with
    | true =>
      rw [present_cons_of_isNull hv, ih, List.filterMap_cons_none (Value.summand?_of_isNull hv)]
    | false =>
      rw [present_cons_of_not_isNull hv, List.filterMap_cons, List.filterMap_cons, ih]

/-- A missing value equals no value that is there. -/
theorem Value.compare_ne_eq_of_isNull {v w : Value} (hv : v.isNull = false)
    (hw : w.isNull = true) : (w.compare v == .eq) = false := by
  cases w with
  | null =>
    cases v with
    | null => cases hv
    | int n => rfl
    | real x => rfl
    | text s => rfl
    | blob octets => rfl
  | _ => cases hw

/-- Missing values among those seen are no reason to leave out a value that is there. -/
theorem any_compare_present {v : Value} (hv : v.isNull = false) (seen : List Value) :
    ((present seen).any fun w ↦ w.compare v == .eq) = seen.any fun w ↦ w.compare v == .eq := by
  rw [present, List.any_filter]
  congr 1
  funext w
  cases hw : w.isNull with
  | true => simp [Value.compare_ne_eq_of_isNull hv hw]
  | false => simp

/-- A missing value is left out before or after equal ones are, with the same outcome. -/
theorem present_distinctValues (values : List Value) :
    present (distinctValues values) = distinctValues (present values) := by
  have hfold (seen : List Value) :
      present (values.foldl (fun seen v ↦
          if seen.any fun w ↦ w.compare v == .eq then seen else seen ++ [v]) seen) =
        (present values).foldl (fun seen v ↦
          if seen.any fun w ↦ w.compare v == .eq then seen else seen ++ [v]) (present seen) := by
    induction values generalizing seen with
    | nil => rfl
    | cons v rest ih =>
      rw [List.foldl_cons, ih]
      cases hv : v.isNull with
      | true =>
        have hseen : present (if seen.any fun w ↦ w.compare v == .eq then seen
            else seen ++ [v]) = present seen := by
          split
          · rfl
          · simp [present, hv]
        rw [present_cons_of_isNull hv, hseen]
      | false =>
        rw [present_cons_of_not_isNull hv, List.foldl_cons, any_compare_present hv]
        split
        · rfl
        · simp [present, hv]
  exact hfold []

theorem improves_of_isNull (wanted : Ordering) (best : Value) {v : Value}
    (h : v.isNull = true) : improves wanted best v = false := by
  simp [improves, h]

/-- The least and the greatest value are looked for among those that are there. -/
theorem extremeOf_present (wanted : Ordering) (values : List Value) :
    extremeOf wanted (present values) = extremeOf wanted values := by
  rw [extremeOf, extremeOf, present, List.foldl_filter]
  congr 1
  funext best v
  cases hv : v.isNull with
  | true => simp [improves_of_isNull wanted best hv]
  | false => simp

theorem countOf_eq_length_present (values : List Value) :
    countOf values = (present values).length := rfl

end Barometer.Store

namespace Barometer.Statistic

open Store (Value present)

/-- Missing values do not count. -/
theorem apply_present (statistic : Statistic) (values : List Value) :
    statistic.apply (present values) = statistic.apply values := by
  cases statistic with
  | count => simp only [apply, Store.countOf_eq_length_present, Store.present_present]
  | countDistinct =>
    simp only [apply, Store.countOf_eq_length_present, Store.present_distinctValues,
      Store.present_present]
  | sum => simp only [apply, Store.sumOf, Store.filterMap_summand?_present]
  | avg => simp only [apply, Store.averageOf, Store.filterMap_summand?_present]
  | min => simp only [apply, Store.extremeOf_present]
  | max => simp only [apply, Store.extremeOf_present]

/-- An aggregate of values that are missing outside of some rows is an aggregate over these rows. -/
theorem apply_map_ite {α : Type} (statistic : Statistic) (rows : List α) (test : α → Bool)
    (value : α → Value) :
    statistic.apply (rows.map fun row ↦ if test row then value row else .null) =
      statistic.apply ((rows.filter test).map value) := by
  have hpresent : present (rows.map fun row ↦ if test row then value row else .null) =
      present ((rows.filter test).map value) := by
    induction rows with
    | nil => rfl
    | cons row rest ih =>
      cases htest : test row with
      | true =>
        rw [List.map_cons, htest, if_pos rfl, List.filter_cons_of_pos htest, List.map_cons]
        cases hv : (value row).isNull with
        | true => rw [Store.present_cons_of_isNull hv, Store.present_cons_of_isNull hv, ih]
        | false => rw [Store.present_cons_of_not_isNull hv, Store.present_cons_of_not_isNull hv, ih]
      | false =>
        rw [List.map_cons, htest, List.filter_cons_of_neg (by simp [htest])]
        exact ih
  rw [← apply_present, hpresent, apply_present]

end Barometer.Statistic
