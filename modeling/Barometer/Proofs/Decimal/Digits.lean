import Barometer.Decimal.Layout
import Mathlib.Data.List.Basic

/-!
# Characters of decimal texts

The digits of a double are decimal digits. Whatever the layout, the text of a number then has only
digits and points in it, besides the sign at its start and an exponent at its end.
-/

namespace Barometer.Decimal

theorem mem_of_mem_trimZeros {digits : List Char} {c : Char} (h : c ∈ trimZeros digits) :
    c = '0' ∨ c ∈ digits := by
  unfold trimZeros at h
  split at h
  · exact .inl (List.mem_singleton.mp h)
  · rw [List.mem_reverse] at h
    exact .inr (List.mem_reverse.mp ((List.dropWhile_sublist _).mem h))

theorem isDigit_of_mem_pointDigits {index : Nat} {exponent : Int} {c : Char}
    (h : c ∈ (pointDigits index exponent).digits) : c.isDigit = true := by
  rcases mem_of_mem_trimZeros h with rfl | h
  · rfl
  · exact Nat.isDigit_of_mem_toDigits (by decide) (by decide) h

/-- The shortest digits are those of a grid point. -/
theorem exists_pointDigits_of_shortestFrom {b : Binary} {count : Nat} {exponent : Int} {d : Digits}
    (h : shortestFrom b exponent count = some d) : ∃ index at', d = pointDigits index at' := by
  induction count generalizing exponent with
  | zero => cases h
  | succ count ih =>
    rw [shortestFrom] at h
    split at h
    · rename_i index hindex
      cases h
      exact ⟨index, exponent, rfl⟩
    · exact ih h

/-- There is no point and no sign among the digits. -/
theorem isDigit_of_mem_shortest {b : Binary} {c : Char} (h : c ∈ (shortest b).digits) :
    c.isDigit = true := by
  have hzero : c ∈ ['0'] → c.isDigit = true := by
    intro hc
    rw [List.mem_singleton.mp hc]
    rfl
  unfold shortest at h
  split at h
  · exact hzero h
  · simp only at h
    rcases hfound : shortestFrom b (leadingExponent b.value.1 b.value.2) 17 with _ | d
    · rw [hfound] at h
      exact hzero h
    · rw [hfound] at h
      obtain ⟨index, exponent, rfl⟩ := exists_pointDigits_of_shortestFrom hfound
      exact isDigit_of_mem_pointDigits h

/-- A positive number is written without zeros in front. -/
theorem head?_toDigits_ne {n : Nat} (h : 0 < n) : (Nat.toDigits 10 n).head? ≠ some '0' := by
  induction n using Nat.strongRecOn with
  | ind n ih =>
    rw [Nat.toDigits_eq_if (by decide)]
    split
    · rename_i hdigit
      have hall : ∀ d < 10, 0 < d → [d.digitChar].head? ≠ some '0' := by decide
      exact hall n hdigit h
    · rename_i hlong
      rw [List.head?_append_of_ne_nil _ Nat.toDigits_ne_nil]
      exact ih (n / 10) (by omega) (by omega)

/-- An integer is written with a sign only if it is negative. -/
theorem toList_toString_int (n : Int) :
    (toString n).toList = (if n < 0 then ['-'] else []) ++ Nat.toDigits 10 n.natAbs := by
  rw [Int.toString_eq_repr, Int.repr_eq_if]
  by_cases h : 0 ≤ n
  · have habs : n.toNat = n.natAbs := by omega
    rw [if_pos h, if_neg (Int.not_lt.mpr h), Nat.toList_repr, habs]
    rfl
  · have habs : (-n).toNat = n.natAbs := by omega
    rw [if_neg h, if_pos (Int.not_le.mp h), String.toList_append, Nat.toList_repr, habs]
    rfl

/-- The characters of integers. -/
theorem mem_toString_int {n : Int} {c : Char} (h : c ∈ (toString n).toList) :
    c.isDigit = true ∨ c = '-' := by
  rw [toList_toString_int, List.mem_append] at h
  rcases h with h | h
  · split at h
    · exact .inr (List.mem_singleton.mp h)
    · cases h
  · exact .inl (Nat.isDigit_of_mem_toDigits (by decide) (by decide) h)

/-- One digit is left, even of nothing but zeros. -/
theorem trimZeros_ne_nil (digits : List Char) : trimZeros digits ≠ [] := by
  unfold trimZeros
  split
  · exact List.cons_ne_nil _ _
  · assumption

theorem shortest_digits_ne_nil (b : Binary) : (shortest b).digits ≠ [] := by
  unfold shortest
  split
  · exact List.cons_ne_nil _ _
  · dsimp only
    rcases hfound : shortestFrom b (leadingExponent b.value.1 b.value.2) 17 with _ | d
    · exact List.cons_ne_nil _ _
    · obtain ⟨index, exponent, rfl⟩ := exists_pointDigits_of_shortestFrom hfound
      exact trimZeros_ne_nil _

namespace Layout

variable {layout : Layout} {d : Digits}

theorem mem_fraction {keep : Bool} {digits : List Char} {c : Char}
    (h : c ∈ fraction keep digits) : c = '.' ∨ c = '0' ∨ c ∈ digits := by
  cases digits with
  | nil =>
    cases keep with
    | false => cases h
    | true => simpa [fraction] using h
  | cons digit rest =>
    rcases List.mem_cons.mp h with rfl | h
    · exact .inl rfl
    · exact .inr (.inr h)

/-- Besides digits there is a point in a positional text, and nothing else. -/
theorem mem_positionalText (hd : ∀ c ∈ d.digits, c.isDigit = true) {c : Char}
    (h : c ∈ layout.positionalText d) : c.isDigit = true ∨ c = '.' := by
  have hzeros {count : Nat} (hc : c ∈ List.replicate count '0') : c.isDigit = true := by
    rw [List.eq_of_mem_replicate hc]
    rfl
  unfold positionalText at h
  split at h
  · rcases List.mem_cons.mp h with rfl | h
    · exact .inl rfl
    · rcases mem_fraction h with rfl | rfl | h
      · exact .inr rfl
      · exact .inl rfl
      · rcases List.mem_append.mp h with h | h
        · exact .inl (hzeros h)
        · exact .inl (hd c h)
  · simp only [List.mem_append] at h
    rcases h with (h | h) | h
    · exact .inl (hd c (List.mem_of_mem_take h))
    · exact .inl (hzeros h)
    · rcases mem_fraction h with rfl | rfl | h
      · exact .inr rfl
      · exact .inl rfl
      · exact .inl (hd c (List.mem_of_mem_drop h))

/-- The mantissa of the exponential form. -/
def mantissaText (layout : Layout) (d : Digits) : List Char :=
  d.digits.take 1 ++ fraction layout.keepMantissaFraction (d.digits.drop 1)

theorem mem_mantissaText (hd : ∀ c ∈ d.digits, c.isDigit = true) {c : Char}
    (h : c ∈ layout.mantissaText d) : c.isDigit = true ∨ c = '.' := by
  rcases List.mem_append.mp h with h | h
  · exact .inl (hd c (List.mem_of_mem_take h))
  · rcases mem_fraction h with rfl | rfl | h
    · exact .inr rfl
    · exact .inl rfl
    · exact .inl (hd c (List.mem_of_mem_drop h))

/-- The digits of an exponent, with zeros before them. -/
def exponentDigits (layout : Layout) (exponent : Int) : List Char :=
  let digits := Nat.toDigits 10 exponent.natAbs
  List.replicate (layout.exponentWidth - digits.length) '0' ++ digits

theorem isDigit_of_mem_exponentDigits {exponent : Int} {c : Char}
    (h : c ∈ layout.exponentDigits exponent) : c.isDigit = true := by
  rcases List.mem_append.mp h with h | h
  · rw [List.eq_of_mem_replicate h]
    rfl
  · exact Nat.isDigit_of_mem_toDigits (by decide) (by decide) h

/-- The sign of an exponent. -/
def exponentSign (layout : Layout) (exponent : Int) : List Char :=
  if exponent < 0 then ['-'] else if layout.signedExponent then ['+'] else []

theorem exponentText_eq (layout : Layout) (exponent : Int) :
    layout.exponentText exponent =
      'e' :: (layout.exponentSign exponent ++ layout.exponentDigits exponent) := by
  simp [exponentText, exponentSign, exponentDigits]

/-- The characters of numbers in any layout. -/
theorem mem_signed (hd : ∀ c ∈ d.digits, c.isDigit = true) {negative : Bool} {c : Char}
    (h : c ∈ (layout.signed negative d).toList) : c.isDigit = true ∨ c ∈ ['.', 'e', '-', '+'] := by
  have hpoint : c.isDigit = true ∨ c = '.' → c.isDigit = true ∨ c ∈ ['.', 'e', '-', '+'] := by
    rintro (hc | rfl)
    · exact .inl hc
    · exact .inr (by decide)
  rw [signed, String.toList_ofList, List.mem_append] at h
  rcases h with h | h
  · split at h
    · rw [List.mem_singleton.mp h]
      exact .inr (by decide)
    · cases h
  · unfold text at h
    split at h
    · exact hpoint (mem_positionalText hd h)
    · rcases List.mem_append.mp h with h | h
      · exact hpoint (mem_mantissaText hd h)
      · rw [exponentText_eq, List.mem_cons, List.mem_append] at h
        rcases h with rfl | h | h
        · exact .inr (by decide)
        · refine .inr ?_
          unfold exponentSign at h
          split at h
          · rw [List.mem_singleton.mp h]
            decide
          · split at h
            · rw [List.mem_singleton.mp h]
              decide
            · cases h
        · exact .inl (isDigit_of_mem_exponentDigits h)

/-- Every number is written with at least one sign. -/
theorem text_ne_nil (layout : Layout) (d : Digits) : layout.text d ≠ [] := by
  unfold text
  split
  · unfold positionalText
    split
    · simp
    · rcases d with ⟨_ | ⟨c, digits⟩, exponent⟩
      · simp [List.replicate_succ]
      · simp
  · simp [exponentialText, exponentText]

theorem signed_ne_empty (layout : Layout) (negative : Bool) (d : Digits) :
    layout.signed negative d ≠ "" := by
  intro h
  have hnil := String.toList_eq_nil_iff.mpr h
  rw [signed, String.toList_ofList, List.append_eq_nil_iff] at hnil
  exact text_ne_nil layout d hnil.2

/-- A fraction has its point if it has digits or must be shown. -/
theorem point_mem_fraction {keep : Bool} {digits : List Char} (h : keep = true ∨ digits ≠ []) :
    '.' ∈ fraction keep digits := by
  cases digits with
  | nil =>
    rw [h.resolve_right fun hne ↦ hne rfl]
    exact List.mem_cons_self
  | cons digit rest => exact List.mem_cons_self

/-- Layouts that show an empty fraction differ from others only where it is empty. -/
theorem fraction_true_eq_false_iff (digits : List Char) :
    fraction true digits = fraction false digits ↔ digits ≠ [] := by
  cases digits <;> simp [fraction]

/-- The exponential notation is told by its letter. -/
theorem exponent_mem_exponentialText (layout : Layout) (d : Digits) :
    'e' ∈ layout.exponentialText d := by
  rw [exponentialText, exponentText_eq]
  exact List.mem_append_right _ List.mem_cons_self

/-- Numbers in JSON texts are written with a point or with an exponent. -/
theorem exists_mem_text_json (hne : d.digits ≠ []) : ∃ c ∈ ['.', 'e'], c ∈ json.text d := by
  unfold text
  split
  · refine ⟨'.', by decide, ?_⟩
    unfold positionalText
    split
    · exact List.mem_cons_of_mem _ (point_mem_fraction (.inr (by simp [hne])))
    · exact List.mem_append_right _ (point_mem_fraction (.inl rfl))
  · exact ⟨'e', by decide, exponent_mem_exponentialText json d⟩

/-- Whether a number is written in positional notation with digits behind the point. -/
def ShowsFraction (d : Digits) : Prop :=
  json.inRange d.exponent = true ∧ d.exponent + 1 < d.digits.length

instance (d : Digits) : Decidable (ShowsFraction d) := instDecidableAnd

/-- Plain texts have neither exponents nor a zero for a fraction. -/
theorem text_json_eq_plain_iff (hd : ∀ c ∈ d.digits, c.isDigit = true) (hne : d.digits ≠ []) :
    json.text d = plain.text d ↔ ShowsFraction d := by
  have hplain : plain.text d = plain.positionalText d := rfl
  have hlength : 0 < d.digits.length := List.length_pos_iff.mpr hne
  rw [hplain, ShowsFraction, text]
  by_cases hrange : json.inRange d.exponent = true
  · rw [if_pos hrange, and_iff_right hrange, positionalText, positionalText]
    by_cases hexponent : d.exponent < 0
    · rw [if_pos hexponent, if_pos hexponent]
      exact iff_of_true rfl (by omega)
    · rw [if_neg hexponent, if_neg hexponent]
      have hkeep : json.keepFraction = true ∧ plain.keepFraction = false := ⟨rfl, rfl⟩
      rw [hkeep.1, hkeep.2, List.append_cancel_left_eq, fraction_true_eq_false_iff, ne_eq,
        List.drop_eq_nil_iff]
      omega
  · rw [if_neg hrange]
    refine iff_of_false (fun h ↦ ?_) fun h ↦ hrange h.1
    have hmem := exponent_mem_exponentialText json d
    rw [h] at hmem
    rcases mem_positionalText hd hmem with hdigit | hpoint
    · exact absurd hdigit (by decide)
    · exact absurd hpoint (by decide)

end Layout

end Barometer.Decimal
