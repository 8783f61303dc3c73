import Barometer.Store.Pattern

/-!
# Patterns and their own texts

A text is an instance of itself as a pattern: a wildcard stands for any text, its own character
among them, and every other character for itself. A pattern without wildcards has no other
instances, up to the case of ASCII letters.
-/

namespace Barometer.Store.Pattern

theorem anySuffix_of_suffix {test : List Char → Bool} {rest : List Char} (h : test rest = true)
    (front : List Char) : anySuffix test (front ++ rest) = true := by
  induction front with
  | nil => cases rest <;> simp [anySuffix, h]
  | cons c front ih => rw [List.cons_append, anySuffix, ih, Bool.or_true]

/-- A text matches itself as a pattern, even with wildcards in it. -/
theorem accepts_self (pattern : List Char) : accepts pattern pattern = true := by
  induction pattern with
  | nil => rfl
  | cons c rest ih =>
    rw [accepts]
    by_cases hany : c = '%'
    · rw [if_pos hany]
      exact anySuffix_of_suffix ih [c]
    · rw [if_neg hany, oneThen, ih]
      simp

theorem textMatches_self (text : String) : textMatches text text = true :=
  accepts_self (visible text)

/-- Without wildcards a match is equality, up to the case of plain letters. -/
theorem accepts_iff_map_toLower_eq {pattern s : List Char}
    (h : ∀ c ∈ pattern, c ≠ '%' ∧ c ≠ '_') :
    accepts pattern s = true ↔ pattern.map Char.toLower = s.map Char.toLower := by
  induction pattern generalizing s with
  | nil => cases s <;> simp [accepts]
  | cons c rest ih =>
    obtain ⟨hany, hone⟩ := h c List.mem_cons_self
    rw [accepts, if_neg hany]
    cases s with
    | nil => simp [oneThen]
    | cons d s =>
      simp [oneThen, hone, ih fun d hd ↦ h d (List.mem_cons_of_mem c hd)]

end Barometer.Store.Pattern
