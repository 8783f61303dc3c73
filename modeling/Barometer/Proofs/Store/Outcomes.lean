import Barometer.Proofs.Decimal.Digits
import Barometer.Proofs.Store.Matches
import Barometer.Proofs.Store.Recasing
import Barometer.Store.Evaluation
import Mathlib.Data.Bool.AllAny

/-!
# Outcomes of matches

A match lowers the value and takes the pattern as it is. Its outcome is that of a match without
regard to case, except that a pattern with a capital of its own matches nothing. So it stays the
same when letters are given another case, as long as that makes and removes no such capital.
-/

namespace Barometer.Store

open Pattern (IsCaseless textMatches visible)
open Text (lower)

/-- The outcome of a match that has no regard to case on either side. -/
def caselessTruth (negated : Bool) (value pattern : Value) : Truth :=
  match value.lowered?, pattern.text? with
  | some s, some p => some (textMatches (lower p) s != negated)
  | _, _ => none

/-- Whether the text of a pattern has a letter that only matches itself and is not in lower case. -/
def Value.HasCapital (pattern : Value) : Prop :=
  ∃ p, pattern.text? = some p ∧ Pattern.HasCapital p

/-- Numbers are written in ASCII, and texts are lowered. -/
theorem Value.isCaseless_of_lowered? {value : Value} {s : String} (h : value.lowered? = some s)
    {c : Char} (hc : c ∈ s.toList) : IsCaseless c := by
  have hdigit (h : c.isDigit = true) : c.toNat < 128 := by
    have hnine : c.toNat ≤ 57 := (Char.isDigit_iff_toNat.mp h).2
    omega
  have hlowered (t : String) (hc : c ∈ (lower t).toList) : IsCaseless c := by
    rw [lower, String.toList_ofList] at hc
    exact .inr (Text.isSettled_of_mem_lowerAfter hc)
  cases value with
  | null => cases h
  | int n =>
    cases h
    rcases Decimal.mem_toString_int hc with h | rfl
    · exact .inl (hdigit h)
    · exact .inl (by decide)
  | real x =>
    cases h
    refine .inl ?_
    unfold Decimal.plainText Decimal.format? at hc
    cases hx : Decimal.Binary.ofFloat? x with
    | some b =>
      rw [hx] at hc
      rcases Decimal.Layout.mem_signed (fun d hd ↦ Decimal.isDigit_of_mem_shortest hd) hc with h | h
      · exact hdigit h
      · have hsigns : ∀ c ∈ ['.', 'e', '-', '+'], c.toNat < 128 :=
          List.all_iff_forall_prop.mp (by decide)
        exact hsigns c h
    | none =>
      rw [hx] at hc
      have hwords : ∀ word ∈ ["NaN", "-inf", "inf"],
          word.toList.all (fun c ↦ c.toNat < 128) = true := by
        decide
      refine List.all_iff_forall_prop.mp (hwords _ ?_) c hc
      dsimp only [Option.map_none]
      split
      · decide
      · split <;> decide
  | text t =>
    cases h
    exact hlowered t hc
  | blob octets =>
    cases h
    exact hlowered _ hc

namespace Truth

/-- Outcomes are the same if they are known alike and true alike. -/
theorem eq_iff_of_isSome_eq {t t' : Truth} (h : t.isSome = t'.isSome) :
    t = t' ↔ (t = some true ↔ t' = some true) := by
  rcases t with _ | _ | _ <;> rcases t' with _ | _ | _ <;> simp_all

theorem map_bne_inj (negated : Bool) {t t' : Truth} :
    t.map (· != negated) = t'.map (· != negated) ↔ t = t' := by
  cases negated <;> rcases t with _ | _ | _ <;> rcases t' with _ | _ | _ <;> simp

end Truth

variable {negated : Bool} {value value' pattern pattern' : Value}

/-- A negated match is the match with its outcome turned around, if it has one. -/
theorem likeTruth_eq_map (negated : Bool) (value pattern : Value) :
    likeTruth negated value pattern = (likeTruth false value pattern).map (· != negated) := by
  unfold likeTruth
  cases value.lowered? with
  | none => rfl
  | some s => cases pattern.text? <;> simp

theorem caselessTruth_eq_map (negated : Bool) (value pattern : Value) :
    caselessTruth negated value pattern =
      (caselessTruth false value pattern).map (· != negated) := by
  unfold caselessTruth
  cases value.lowered? with
  | none => rfl
  | some s => cases pattern.text? <;> simp

/-- With or without regard to case, the same matches are unknown. -/
theorem isSome_likeTruth (value pattern : Value) :
    (likeTruth false value pattern).isSome = (caselessTruth false value pattern).isSome := by
  unfold likeTruth caselessTruth
  cases value.lowered? with
  | none => rfl
  | some s => cases pattern.text? <;> simp only [Option.isSome_some]

/-- A match finds what a match without regard to case does, unless its pattern has a capital. -/
theorem likeTruth_eq_some_iff :
    likeTruth false value pattern = some true ↔
      caselessTruth false value pattern = some true ∧ ¬ pattern.HasCapital := by
  unfold likeTruth caselessTruth Value.HasCapital
  cases hs : value.lowered? with
  | none => simp
  | some s =>
    cases hp : pattern.text? with
    | none => simp
    | some p =>
      have hvisible : ∀ c ∈ visible s, IsCaseless c := fun c hc ↦
        value.isCaseless_of_lowered? hs ((List.takeWhile_sublist _).mem hc)
      simp [Pattern.textMatches_iff hvisible p, and_comm]

/-- Only a capital in a pattern that would match can make a difference. -/
theorem likeTruth_eq_caselessTruth_iff :
    likeTruth negated value pattern = caselessTruth negated value pattern ↔
      (caselessTruth false value pattern = some true → ¬ pattern.HasCapital) := by
  rw [likeTruth_eq_map, caselessTruth_eq_map, Truth.map_bne_inj,
    Truth.eq_iff_of_isSome_eq (isSome_likeTruth value pattern), likeTruth_eq_some_iff]
  exact and_iff_left_iff_imp

/-- A match without regard to case does not see a difference in case. -/
theorem caselessTruth_recased (hvalue : value.Recased value') (hpattern : pattern.Recased pattern')
    (negated : Bool) :
    caselessTruth negated value' pattern' = caselessTruth negated value pattern := by
  unfold caselessTruth
  rw [hvalue.lowered?]
  rcases hpattern.text? with ⟨hp, hp'⟩ | ⟨p, p', hp, hp', hlower, -⟩
  · rw [hp, hp']
  · simp only [hp, hp']
    cases value.lowered? with
    | none => rfl
    | some s => exact congrArg (fun p ↦ some (textMatches p s != negated)) hlower

/-- Letters in another case change the outcome of a match only if there is a match without regard to
case, and the pattern then gets a capital of its own or loses the last one. -/
theorem likeTruth_recased_iff (hvalue : value.Recased value')
    (hpattern : pattern.Recased pattern') :
    likeTruth negated value' pattern' = likeTruth negated value pattern ↔
      (caselessTruth false value pattern = some true →
        (pattern.HasCapital ↔ pattern'.HasCapital)) := by
  have hsame := caselessTruth_recased hvalue hpattern false
  have hknown : (likeTruth false value' pattern').isSome =
      (likeTruth false value pattern).isSome := by
    rw [isSome_likeTruth, isSome_likeTruth, hsame]
  rw [likeTruth_eq_map, likeTruth_eq_map negated value, Truth.map_bne_inj,
    Truth.eq_iff_of_isSome_eq hknown, likeTruth_eq_some_iff, likeTruth_eq_some_iff, hsame]
  constructor
  · intro h hmatch
    simpa [hmatch, not_iff_not, iff_comm] using h
  · intro h
    by_cases hmatch : caselessTruth false value pattern = some true
    · simp [hmatch, h hmatch]
    · simp [hmatch]

/-- A text matches itself unless it has a capital. -/
theorem likeTruth_self_iff (t : String) :
    likeTruth false (.text t) (.text t) = some true ↔ ¬ Pattern.HasCapital t := by
  have hself : caselessTruth false (.text t) (.text t) = some true := by
    simp [caselessTruth, Value.lowered?, Value.text?, Pattern.textMatches_self]
  have hcapital : Value.HasCapital (.text t) ↔ Pattern.HasCapital t := by
    simp [Value.HasCapital, Value.text?]
  rw [likeTruth_eq_some_iff, hcapital]
  simp [hself]

/-- A text in lower case has no capitals. -/
theorem not_hasCapital_of_lower_eq {t : String} (h : lower t = t) :
    ¬ Value.HasCapital (.text t) := by
  rintro ⟨p, hp, c, hc, hcapital⟩
  cases hp
  refine hcapital (.inr ?_)
  have hmem := (List.takeWhile_sublist _).mem hc
  rw [← h, lower, String.toList_ofList] at hmem
  exact Text.isSettled_of_mem_lowerAfter hmem

end Barometer.Store
