import Barometer.Store.Evaluation

/-!
# Three-valued logic

Conjunctions and disjunctions of any number of outcomes, said at once, and that the connectives of
the database compute them one after the other.
-/

namespace Barometer.Store

namespace Truth

/-- A conjunction fails if one part fails; else it is unknown if one part is. -/
def all (ts : List Truth) : Truth :=
  if some false ∈ ts then some false else if none ∈ ts then none else some true

/-- A disjunction holds if one part holds; else it is unknown if one part is. -/
def any (ts : List Truth) : Truth :=
  if some true ∈ ts then some true else if none ∈ ts then none else some false

/-- Outcomes that are joined one by one are joined all at once. -/
theorem foldr_both (ts : List Truth) : ts.foldr both (some true) = all ts := by
  induction ts with
  | nil => rfl
  | cons t ts ih =>
    rw [List.foldr_cons, ih]
    unfold all
    rcases t with _ | _ | _ <;> by_cases hfalse : some false ∈ ts <;>
      by_cases hnone : none ∈ ts <;> simp [both, hfalse, hnone]

theorem foldr_either (ts : List Truth) : ts.foldr either (some false) = any ts := by
  induction ts with
  | nil => rfl
  | cons t ts ih =>
    rw [List.foldr_cons, ih]
    unfold any
    rcases t with _ | _ | _ <;> by_cases htrue : some true ∈ ts <;>
      by_cases hnone : none ∈ ts <;> simp [either, htrue, hnone]

/-- A conjunction is true if each outcome is. -/
theorem all_eq_true_iff (ts : List Truth) : all ts = some true ↔ ∀ t ∈ ts, t = some true := by
  unfold all
  constructor
  · intro h t ht
    split at h
    · cases h
    · split at h
      · cases h
      · rename_i hfalse hnone
        rcases t with _ | _ | _
        · exact absurd ht hnone
        · exact absurd ht hfalse
        · rfl
  · intro h
    have hfalse : some false ∉ ts := fun hmem ↦ by cases h _ hmem
    have hnone : none ∉ ts := fun hmem ↦ by cases h _ hmem
    rw [if_neg hfalse, if_neg hnone]

@[simp] theorem all_singleton (t : Truth) : all [t] = t := by
  rcases t with _ | _ | _ <;> rfl

@[simp] theorem any_singleton (t : Truth) : any [t] = t := by
  rcases t with _ | _ | _ <;> rfl

theorem all_cons (t : Truth) (ts : List Truth) : all (t :: ts) = both t (all ts) := by
  rw [← foldr_both, List.foldr_cons, foldr_both]

@[simp] theorem both_true (t : Truth) : both (some true) t = t := by
  rcases t with _ | _ | _ <;> rfl

/-- Parts that are true can be left out of a conjunction. -/
theorem all_map_filter {α : Type} (outcome : α → Truth) (needed : α → Bool) (xs : List α)
    (h : ∀ x ∈ xs, needed x = false → outcome x = some true) :
    all ((xs.filter needed).map outcome) = all (xs.map outcome) := by
  induction xs with
  | nil => rfl
  | cons x rest ih =>
    have hrest := ih fun y hy ↦ h y (List.mem_cons_of_mem x hy)
    rw [List.map_cons, all_cons, ← hrest]
    by_cases hx : needed x = true
    · rw [List.filter_cons_of_pos hx, List.map_cons, all_cons]
    · have htrue := h x List.mem_cons_self (Bool.eq_false_iff.mpr hx)
      rw [List.filter_cons_of_neg hx, htrue, both_true]

end Truth

@[simp] theorem Value.truth_ofTruth (t : Truth) : (Value.ofTruth t).truth = t := by
  rcases t with _ | _ | _ <;> rfl

/-- An unknown outcome, a true one and a false one are different values. -/
theorem Value.ofTruth_inj {t t' : Truth} : Value.ofTruth t = .ofTruth t' ↔ t = t' := by
  refine ⟨fun h ↦ ?_, congrArg Value.ofTruth⟩
  rw [← Value.truth_ofTruth t, h, Value.truth_ofTruth]

theorem Value.ofTruth_eq_ofBool_iff {t : Truth} {b : Bool} :
    Value.ofTruth t = .ofBool b ↔ t = some b := by
  rw [← Value.ofTruth_inj, Value.ofTruth.eq_2]

theorem Value.holds_ofTruth (t : Truth) : (Value.ofTruth t).holds = (t == some true) := by
  rw [holds, truth_ofTruth]

end Barometer.Store

namespace Barometer.Sql.Connective

open Store (Truth Value)

/-- The outcome of a connective. -/
def truth : Connective → List Truth → Truth
  | .and => Truth.all
  | .or => Truth.any

theorem join_eq_truth (connective : Connective) (ts : List Truth) :
    connective.join ts = connective.truth ts := by
  cases connective with
  | and => exact Truth.foldr_both ts
  | or => exact Truth.foldr_either ts

/-- A junction of outcomes has the outcome that the connective gives them. -/
theorem value_map_ofTruth (connective : Connective) (ts : List Truth) :
    connective.value (ts.map Value.ofTruth) = .ofTruth (connective.truth ts) := by
  rcases ts with _ | ⟨t, _ | ⟨u, rest⟩⟩
  · rw [← join_eq_truth]
    rfl
  · cases connective <;> simp [value, truth]
  · have htruths : ((t :: u :: rest).map Value.ofTruth).map Value.truth = t :: u :: rest := by
      rw [List.map_map]
      exact List.map_id'' Value.truth_ofTruth _
    rw [← join_eq_truth]
    exact congrArg (fun ts ↦ Value.ofTruth (connective.join ts)) htruths

end Barometer.Sql.Connective
