import Barometer.Indicator.Scalar
import Barometer.Proofs.Decimal.Binary
import Barometer.Proofs.Decimal.Digits
import Barometer.Proofs.Text.Canonical

/-!
# Canonical texts of scalars

Numbers and truth values are their own canonical text. A scalar has none only if it is missing, is
a text without words, or is not a finite number.
-/

namespace Barometer.Scalar

/-- The text of a scalar as it is written; none for what is missing or no finite number. -/
def writtenText? : Scalar → Option String
  | .null => none
  | .int n => some (toString n)
  | .real x => Decimal.format? .json x
  | .bool b => some (if b then "true" else "false")
  | .text s => some s

/-- The canonical text of a value is that of its written text, if it has one. -/
theorem canonicalText?_eq_bind (value : Scalar) :
    value.canonicalText? = value.writtenText?.bind Text.Canonical.text? := by
  cases value with
  | null => rfl
  | int n => rw [canonicalText?, Json.Number.text, writtenText?, Option.bind_some]
  | real x => rw [canonicalText?, writtenText?]
  | bool b => rw [canonicalText?, writtenText?, Option.bind_some]
  | text s => rw [canonicalText?, writtenText?, Option.bind_some]

/-- Canonical texts are in lower case, so patterns can do without lowering. -/
theorem lower_of_canonicalText? {value : Scalar} {form : String}
    (h : value.canonicalText? = some form) : Text.lower form = form := by
  rw [canonicalText?_eq_bind] at h
  obtain ⟨written, -, hform⟩ := Option.bind_eq_some_iff.mp h
  exact Text.Canonical.lower_of_text?_eq_some hform

theorem mem_unchanged_toString {n : Int} {c : Char} (hc : c ∈ (toString n).toList) :
    c ∈ Text.Canonical.unchanged := by
  rcases Decimal.mem_toString_int hc with hdigit | rfl
  · exact Text.Canonical.mem_unchanged_of_isDigit hdigit
  · decide

/-- The signs of a real in any layout are among those that the canonical form leaves alone. -/
theorem mem_unchanged_signed {layout : Decimal.Layout} {negative : Bool} {b : Decimal.Binary}
    {c : Char} (hc : c ∈ (layout.signed negative (Decimal.shortest b)).toList) :
    c ∈ Text.Canonical.unchanged := by
  rcases Decimal.Layout.mem_signed (fun d hd ↦ Decimal.isDigit_of_mem_shortest hd) hc with h | h
  · exact Text.Canonical.mem_unchanged_of_isDigit h
  · have hsigns : ['.', 'e', '-', '+'] ⊆ Text.Canonical.unchanged := by decide
    exact hsigns h

theorem toString_int_ne_empty (n : Int) : toString n ≠ "" := by
  rw [Int.toString_eq_repr, Int.repr_eq_if]
  split
  · exact Nat.repr_ne_empty
  · intro h
    have hnil := String.toList_eq_nil_iff.mpr h
    rw [String.toList_append] at hnil
    cases hnil

/-- An integer is its own canonical text. -/
theorem canonicalText?_int (n : Int) : (Scalar.int n).canonicalText? = some (toString n) := by
  rw [canonicalText?, Json.Number.text]
  exact Text.Canonical.text?_of_unchanged (fun c ↦ mem_unchanged_toString) (toString_int_ne_empty n)

theorem canonicalText?_bool (b : Bool) :
    (Scalar.bool b).canonicalText? = some (if b then "true" else "false") := by
  rw [canonicalText?]
  cases b with
  | false => exact Text.Canonical.text?_of_isPlain (by decide) (by decide) (by decide)
  | true => exact Text.Canonical.text?_of_isPlain (by decide) (by decide) (by decide)

theorem canonicalText?_real (x : Float) :
    (Scalar.real x).canonicalText? = Decimal.format? .json x := by
  rw [canonicalText?, Decimal.format?]
  rcases Decimal.Binary.ofFloat? x with _ | b
  · rfl
  · rw [Option.map_some, Option.bind_some]
    exact Text.Canonical.text?_of_unchanged (fun c ↦ mem_unchanged_signed)
      (Decimal.Layout.signed_ne_empty _ _ _)

/-- Of the reals only those that are not finite have no text. -/
theorem canonicalText?_real_eq_none_iff (x : Float) :
    (Scalar.real x).canonicalText? = none ↔ x.isFinite = false := by
  rw [canonicalText?_real, Decimal.format?, Option.map_eq_none_iff,
    ← Decimal.Binary.ofFloat?_isSome,
    Option.isSome_eq_false_iff, Option.isNone_iff_eq_none]

end Barometer.Scalar
