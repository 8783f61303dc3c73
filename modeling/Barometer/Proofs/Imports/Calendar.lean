import Barometer.Imports.Timestamp
import Mathlib.Data.List.Basic

/-!
# The calendar

A day has one date, and the date leads back to the day. Years are found by cycles of 400, 100, 4 and
1 years, months by going through the year, and both are undone by counting the days before them.
-/

namespace Barometer.Timestamp

theorem daysToMonth_succ (year : Int) {month : Nat} (h : 1 ≤ month) :
    daysToMonth year (month + 1) = daysToMonth year month + monthLength year month := by
  obtain ⟨m, rfl⟩ := Nat.exists_eq_add_of_le' h
  rw [daysToMonth, daysToMonth, Nat.add_sub_cancel, Nat.add_sub_cancel, List.range_succ,
    List.foldl_append]
  rfl

/-- The number of days of a year. -/
def yearLength (year : Int) : Nat := if isLeap year then 366 else 365

theorem daysToMonth_thirteen (year : Int) : daysToMonth year 13 = yearLength year := by
  unfold daysToMonth yearLength monthLength
  cases isLeap year <;> rfl

/-- Going through the months from one of them on finds a month of the year and a day in it. -/
theorem monthOf_spec {year : Int} {month days left : Nat} (hmonth : 1 ≤ month)
    (hleft : month + left = 12) (hdays : daysToMonth year month + days < yearLength year) :
    let date := monthOf year month days left
    (month ≤ date.1 ∧ date.1 ≤ 12) ∧ (1 ≤ date.2 ∧ date.2 ≤ monthLength year date.1) ∧
      daysToMonth year date.1 + (date.2 - 1) = daysToMonth year month + days := by
  have hnext := daysToMonth_succ year hmonth
  induction left generalizing month days with
  | zero =>
    obtain rfl : month = 12 := hleft
    rw [← daysToMonth_thirteen, hnext] at hdays
    refine ⟨⟨Nat.le_refl _, Nat.le_refl _⟩, ⟨Nat.le_add_left 1 days, ?_⟩, rfl⟩
    change days + 1 ≤ monthLength year 12
    omega
  | succ left ih =>
    rw [monthOf]
    split
    · rename_i hwithin
      exact ⟨⟨Nat.le_refl _, by omega⟩, ⟨Nat.le_add_left 1 days, hwithin⟩, rfl⟩
    · rename_i hbeyond
      have hspec := @ih (month + 1) (days - monthLength year month) (by omega) (by omega) (by omega)
        (daysToMonth_succ year (by omega))
      refine ⟨⟨by omega, hspec.1.2⟩, hspec.2.1, ?_⟩
      rw [hspec.2.2]
      omega

section Years

variable {cycle : Int} {century four year : Nat}

/-- The days before a year, by the cycles that are over. -/
theorem daysToYear_of_cycles (hcentury : century ≤ 3) (hfour : four ≤ 24) (hyear : year ≤ 3) :
    daysToYear (400 * cycle + (100 * century + 4 * four + year + 1 : Nat)) =
      146097 * cycle + (36524 * century + 1461 * four + 365 * year : Nat) - epochDay := by
  have hfour' (n : Int) : n.fdiv 4 = n / 4 := Int.fdiv_eq_ediv_of_nonneg n (by decide)
  have hhundred (n : Int) : n.fdiv 100 = n / 100 := Int.fdiv_eq_ediv_of_nonneg n (by decide)
  have hlong (n : Int) : n.fdiv 400 = n / 400 := Int.fdiv_eq_ediv_of_nonneg n (by decide)
  simp only [daysToYear, hfour', hhundred, hlong]
  omega

/-- The last year of four is longer, unless it is the last one of a century other than the last. -/
theorem isLeap_of_cycles (hfour : four ≤ 24) (h : four < 24 ∨ century = 3) :
    isLeap (400 * cycle + (100 * century + 4 * four + 3 + 1 : Nat)) = true := by
  simp only [isLeap, Bool.and_eq_true, Bool.or_eq_true, Bool.not_eq_true', decide_eq_true_eq,
    decide_eq_false_iff_not]
  omega

end Years

/-- A day is in its year: it comes as many days after the first of January as have passed. -/
theorem daysToYear_yearOf (day : Int) :
    daysToYear (yearOf day).1 + (yearOf day).2 = day ∧
      (yearOf day).2 < yearLength (yearOf day).1 := by
  have hcycle : (day + epochDay).fdiv 146097 = (day + epochDay) / 146097 :=
    Int.fdiv_eq_ediv_of_nonneg _ (by decide)
  have hinCycle : (day + epochDay).fmod 146097 = (day + epochDay) % 146097 :=
    Int.fmod_eq_emod_of_nonneg _ (by decide)
  simp only [yearOf, hcycle, hinCycle]
  generalize hi : ((day + epochDay) % 146097).toNat = inCycle
  generalize hk : min (inCycle / 36524) 3 = century
  generalize hf : (inCycle - century * 36524) / 1461 = four
  generalize hr : (inCycle - century * 36524) % 1461 = inFour
  generalize hy : min (inFour / 365) 3 = year
  have hcentury : century ≤ 3 := by omega
  have hfour : four ≤ 24 := by omega
  have hyear : year ≤ 3 := by omega
  have hdays : (inCycle : Int) = (day + epochDay) % 146097 := by omega
  rw [daysToYear_of_cycles hcentury hfour hyear]
  refine ⟨by omega, ?_⟩
  unfold yearLength
  split
  · omega
  · rename_i hleap
    -- Only the last of four years can have a day more, and then it is longer.
    have hlast : ¬(year = 3 ∧ (four < 24 ∨ century = 3)) := by
      rintro ⟨rfl, h⟩
      exact hleap (isLeap_of_cycles hfour h)
    omega

/-- A date is a day of a month of a year, and the days before it are counted. -/
theorem date_spec (t : Timestamp) :
    (1 ≤ t.date.2.1 ∧ t.date.2.1 ≤ 12) ∧
      (1 ≤ t.date.2.2 ∧ t.date.2.2 ≤ monthLength t.date.1 t.date.2.1) ∧
      daysToYear t.date.1 + daysToMonth t.date.1 t.date.2.1 + (t.date.2.2 - 1 : Nat) = t.day := by
  obtain ⟨hday, hlength⟩ := daysToYear_yearOf t.day
  have hfirst : daysToMonth (yearOf t.day).1 1 = 0 := rfl
  obtain ⟨hmonth, hwithin, hspec⟩ :=
    @monthOf_spec (yearOf t.day).1 1 (yearOf t.day).2 11 (Nat.le_refl 1) rfl (by omega)
  refine ⟨hmonth, hwithin, ?_⟩
  calc
    _ = daysToYear (yearOf t.day).1 + ((daysToMonth t.date.1 t.date.2.1 + (t.date.2.2 - 1) : Nat) :
          Int) := by
      rw [Int.natCast_add, ← Int.add_assoc]
      rfl
    _ = daysToYear (yearOf t.day).1 + (yearOf t.day).2 := by
      rw [show daysToMonth t.date.1 t.date.2.1 + (t.date.2.2 - 1) = _ from hspec, hfirst,
        Nat.zero_add]
    _ = t.day := hday

/-- The date of a day leads back to the day. -/
theorem dayOf?_date {t : Timestamp} (h : -262143 ≤ t.date.1 ∧ t.date.1 ≤ 262142) :
    dayOf? t.date.1 t.date.2.1 t.date.2.2 = some t.day := by
  obtain ⟨hmonth, hwithin, hday⟩ := t.date_spec
  rw [dayOf?, if_pos ⟨hmonth.1, hmonth.2, hwithin.1, hwithin.2, h⟩, hday]

theorem monthLength_le (year : Int) (month : Nat) : monthLength year month ≤ 31 := by
  unfold monthLength
  split
  · split <;> decide
  · split <;> decide

/-- Months and days have at most two digits. -/
theorem date_lt (t : Timestamp) : t.date.2.1 < 100 ∧ t.date.2.2 < 100 := by
  obtain ⟨hmonth, hwithin, -⟩ := t.date_spec
  have hlength := monthLength_le t.date.1 t.date.2.1
  omega

end Barometer.Timestamp
