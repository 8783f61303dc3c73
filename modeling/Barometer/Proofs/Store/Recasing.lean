import Barometer.Proofs.Store.Numerals
import Barometer.Store.Arithmetic
import Barometer.Store.Header
import Mathlib.Data.List.Forall2

/-!
# Values with letters in another case

Cells that are lowered leave every value what it is but for the case of its letters: names are read
from the same cells, a text counts as the same number, and joined texts are joined as before. Only a
capital sigma has to be kept out of joined texts, since its lower case may depend on the text that
it is joined to.
-/

namespace Barometer.Store

open Text (lower)

namespace Value

/-- A text in lower case; other values are left as they are. -/
def inLowerCase : Value → Value
  | .text s => .text (lower s)
  | v => v

/-- Whether two values are the same but for the case of letters. A capital sigma stands in the
second one only if there is one in the first. -/
inductive Recased : Value → Value → Prop
  | refl (v : Value) : Recased v v
  | text {s t : String} (hlower : lower t = lower s) (hsigma : 'Σ' ∈ t.toList → 'Σ' ∈ s.toList) :
      Recased (.text s) (.text t)

/-- A value that can be joined to others before or after it is lowered. -/
structure JoinsPlainly (v : Value) : Prop where
  not_blob : ∀ octets, v ≠ .blob octets
  not_sigma : ∀ s, v.text? = some s → 'Σ' ∉ s.toList

/-- A value and its lowered form differ in case at most. -/
theorem recased_inLowerCase (v : Value) : Recased v v.inLowerCase := by
  cases v with
  | text s => exact .text (Text.lower_lower s) fun h ↦ absurd h (Text.sigma_not_mem_lower s)
  | _ => exact .refl _

namespace Recased

variable {v v' a a' b b' : Value}

theorem isNull (h : Recased v v') : v'.isNull = v.isNull := by
  cases h <;> rfl

/-- Numbers are read from texts without regard to case. -/
theorem quantity? (h : Recased v v') : v'.quantity? = v.quantity? := by
  cases h with
  | refl => rfl
  | @text s t hlower hsigma =>
    have hcount : Quantity.ofText t = Quantity.ofText s := by
      rw [← Quantity.ofText_lower t, hlower, Quantity.ofText_lower]
    exact congrArg some hcount

/-- Lowered, there is no difference left. -/
theorem lowered? (h : Recased v v') : v'.lowered? = v.lowered? := by
  cases h with
  | refl => rfl
  | text hlower => exact congrArg some hlower

theorem text? (h : Recased v v') :
    v.text? = none ∧ v'.text? = none ∨
      ∃ s t, v.text? = some s ∧ v'.text? = some t ∧ lower t = lower s ∧
        ('Σ' ∈ t.toList → 'Σ' ∈ s.toList) := by
  cases h with
  | refl =>
    cases htext : v.text? with
    | none => exact .inl ⟨rfl, rfl⟩
    | some s => exact .inr ⟨s, s, rfl, rfl, rfl, id⟩
  | @text s t hlower hsigma => exact .inr ⟨s, t, rfl, rfl, hlower, hsigma⟩

theorem joinsPlainly (h : Recased v v') (hv : v.JoinsPlainly) : v'.JoinsPlainly := by
  cases h with
  | refl => exact hv
  | @text s t hlower hsigma =>
    refine ⟨fun octets ↦ nofun, fun t' ht' ↦ ?_⟩
    cases ht'
    exact fun hmem ↦ hv.not_sigma s rfl (hsigma hmem)

end Recased

theorem joinTexts_of_joinsPlainly {a b : Value} (ha : a.JoinsPlainly) (hb : b.JoinsPlainly) :
    joinTexts a b = match a.text?, b.text? with
      | some s, some t => .text (s ++ t)
      | _, _ => .null := by
  cases a with
  | blob s => exact absurd rfl (ha.not_blob s)
  | _ =>
    cases b with
    | blob t => exact absurd rfl (hb.not_blob t)
    | _ => rfl

theorem JoinsPlainly.joinTexts {a b : Value} (ha : a.JoinsPlainly) (hb : b.JoinsPlainly) :
    (joinTexts a b).JoinsPlainly := by
  rw [joinTexts_of_joinsPlainly ha hb]
  split
  · rename_i s t hs ht
    refine ⟨fun octets ↦ nofun, fun joined hjoined ↦ ?_⟩
    cases hjoined
    rw [String.toList_append, List.mem_append]
    exact not_or.mpr ⟨ha.not_sigma s hs, hb.not_sigma t ht⟩
  · exact ⟨fun octets ↦ nofun, fun joined hjoined ↦ nomatch hjoined⟩

namespace Recased

variable {a a' b b' : Value} {op : Arithmetic}

theorem joinTexts (ha : Recased a a') (hb : Recased b b') (hplain : a.JoinsPlainly)
    (hplain' : b.JoinsPlainly) : Recased (joinTexts a b) (joinTexts a' b') := by
  rw [joinTexts_of_joinsPlainly hplain hplain',
    joinTexts_of_joinsPlainly (ha.joinsPlainly hplain) (hb.joinsPlainly hplain')]
  rcases ha.text? with ⟨hs, hs'⟩ | ⟨s, s', hs, hs', hlower, hsigma⟩
  · rw [hs, hs']
    exact .refl _
  · rcases hb.text? with ⟨ht, ht'⟩ | ⟨t, t', ht, ht', htlower, htsigma⟩
    · rw [hs, hs', ht, ht']
      exact .refl _
    · have hfree := hplain.not_sigma s hs
      have htfree := hplain'.not_sigma t ht
      simp only [hs, hs', ht, ht']
      refine .text ?_ ?_
      · rw [Text.lower_append (fun h ↦ hfree (hsigma h)) (fun h ↦ htfree (htsigma h)),
          Text.lower_append hfree htfree, hlower, htlower]
      · rw [String.toList_append, String.toList_append, List.mem_append, List.mem_append]
        exact Or.imp hsigma htsigma

theorem onQuantities (f : Quantity → Quantity → Value) (ha : Recased a a') (hb : Recased b b') :
    Recased (onQuantities f a b) (onQuantities f a' b') := by
  rw [Store.onQuantities, Store.onQuantities, ha.quantity?, hb.quantity?]
  exact .refl _

theorem operate (ha : Recased a a') (hb : Recased b b')
    (hplain : op = .concat → a.JoinsPlainly ∧ b.JoinsPlainly) :
    Recased (operate op a b) (operate op a' b') := by
  cases op with
  | concat => exact ha.joinTexts hb (hplain rfl).1 (hplain rfl).2
  | _ => exact ha.onQuantities _ hb

/-- The outcomes of an operator differ in case at most, from the left operand on. -/
theorem foldl_operate {vs vs' : List Value} (hvs : List.Forall₂ Recased vs vs')
    (hplain : op = .concat → ∀ v ∈ vs, v.JoinsPlainly) (ha : Recased a a')
    (ha' : op = .concat → a.JoinsPlainly) :
    Recased (vs.foldl (Store.operate op) a) (vs'.foldl (Store.operate op) a') := by
  induction hvs generalizing a a' with
  | nil => exact ha
  | @cons b b' vs vs' hb hvs ih =>
    have hb' (hop : op = .concat) := hplain hop b List.mem_cons_self
    rw [List.foldl_cons, List.foldl_cons]
    refine ih (fun hop v hv ↦ hplain hop v (List.mem_cons_of_mem b hv))
      (ha.operate hb fun hop ↦ ⟨ha' hop, hb' hop⟩) fun hop ↦ ?_
    have hjoined := (ha' hop).joinTexts (hb' hop)
    rw [hop]
    exact hjoined

theorem operateAll {vs vs' : List Value} (hvs : List.Forall₂ Recased vs vs')
    (hplain : op = .concat → ∀ v ∈ vs, v.JoinsPlainly) :
    Recased (operateAll op vs) (operateAll op vs') := by
  cases hvs with
  | nil => exact .refl _
  | @cons v v' vs vs' hv hvs =>
    exact foldl_operate hvs (fun hop v hv ↦ hplain hop v (List.mem_cons_of_mem _ hv)) hv
      fun hop ↦ hplain hop v List.mem_cons_self

end Recased

end Value

/-- A row in the place of another one: each of its cells is kept or lowered. -/
structure Level.Lowered (level level' : Level) : Prop where
  header : level'.header = level.header
  cells : ∀ i, level'.row.getD i .null = level.row.getD i .null ∨
    level'.row.getD i .null = (level.row.getD i .null).inLowerCase

namespace Context

/-- The same queries at work, with any cells lowered. -/
def Lowered (ctx ctx' : Context) : Prop := List.Forall₂ Level.Lowered ctx ctx'

variable {ctx ctx' : Context}

theorem Lowered.lookup (h : ctx.Lowered ctx') (path : List Part) :
    Value.Recased (ctx.lookup path) (ctx'.lookup path) := by
  induction h with
  | nil => exact .refl _
  | @cons level level' outer outer' hlevel _ ih =>
    rw [Context.lookup, Context.lookup, hlevel.header]
    split
    · rename_i i _
      rcases hlevel.cells i with hcell | hcell
      · exact hcell ▸ .refl _
      · exact hcell ▸ Value.recased_inLowerCase _
    · exact .refl _
    · exact ih

/-- On a row in lower case every name is read as a value in another case. -/
theorem Lowered.read (h : ctx.Lowered ctx') (reading : Reading) :
    Value.Recased (ctx.read reading) (ctx'.read reading) := by
  cases reading with
  | path parts => exact h.lookup parts
  | _ => exact .refl _

end Context

end Barometer.Store
