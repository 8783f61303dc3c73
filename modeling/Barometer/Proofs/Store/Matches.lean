import Barometer.Proofs.Store.Pattern
import Barometer.Proofs.Text.Letters

/-!
# Matches in lower case

A match takes ASCII letters in either case, and every other letter as it is. So a pattern may be
lowered as far as its letters are in ASCII, and one with another capital in it matches no text in
lower case.
-/

namespace Barometer.Store.Pattern

open Text (IsSettled lower lowerAfter lowerLetter)

/-- Whether a match takes a character in the case that lower case gives it. -/
def IsCaseless (c : Char) : Prop := c.toNat < 128 ∨ IsSettled c

/-- Whether a pattern has a letter that only matches itself and is not in lower case. -/
def HasCapital (pattern : String) : Prop := ∃ c ∈ visible pattern, ¬ IsCaseless c

theorem IsCaseless.lowerLetter_eq {c : Char} (hc : IsCaseless c) : lowerLetter c = [c.toLower] := by
  by_cases hascii : c.toNat < 128
  · exact Text.lowerLetter_of_ascii hascii
  · rw [(hc.resolve_left hascii).lowerLetter_eq,
      Text.toLower_of_not_ascii (Nat.le_of_not_lt hascii)]

theorem IsCaseless.ne_sigma {c : Char} (hc : IsCaseless c) : c ≠ 'Σ' := by
  rintro rfl
  exact hc.elim (by decide) fun hsettled ↦ hsettled.ne_sigma rfl

/-- The case of plain letters in a pattern does not matter. -/
theorem accepts_map_toLower (pattern : List Char) :
    accepts (pattern.map Char.toLower) = accepts pattern := by
  induction pattern with
  | nil => rfl
  | cons c rest ih =>
    have hsign (d : Char) (hd : d.isLower = false) (hlower : d.toLower = d) :
        c.toLower = d ↔ c = d :=
      ⟨fun h ↦ Text.eq_of_toLower_eq h hd, fun h ↦ h ▸ hlower⟩
    have hany := hsign '%' (by decide) (by decide)
    have hone : (c.toLower == '_') = (c == '_') := by
      rw [Bool.eq_iff_iff, beq_iff_eq, beq_iff_eq]
      exact hsign '_' (by decide) (by decide)
    rw [List.map_cons, accepts, accepts, ih, hone, Text.toLower_toLower]
    simp only [hany]

/-- Lowering does not move the end of a text, as patterns see it. -/
theorem takeWhile_lowerAfter (seen : List Char) {s : List Char}
    (hs : ∀ c ∈ s.takeWhile fun c ↦ c.toNat != 0, IsCaseless c) :
    (lowerAfter seen s).takeWhile (fun c ↦ c.toNat != 0) =
      (s.takeWhile fun c ↦ c.toNat != 0).map Char.toLower := by
  induction s generalizing seen with
  | nil => rfl
  | cons c rest ih =>
    by_cases hzero : c.toNat = 0
    · have hc : c = '\x00' := Char.toNat_inj.mp hzero
      subst hc
      rfl
    · have hvisible : (c.toNat != 0) = true := bne_iff_ne.mpr hzero
      simp only [List.takeWhile_cons, hvisible, if_true] at hs ⊢
      have hc := hs c List.mem_cons_self
      have hlower : (c.toLower.toNat != 0) = true := by
        rw [bne_iff_ne]
        intro h
        have heq := Text.eq_of_toLower_eq (Char.toNat_inj.mp h : c.toLower = '\x00') (by decide)
        exact hzero (congrArg Char.toNat heq)
      rw [lowerAfter, if_neg hc.ne_sigma, hc.lowerLetter_eq, List.singleton_append,
        List.takeWhile_cons, if_pos hlower, List.map_cons,
        ih (c :: seen) fun d hd ↦ hs d (List.mem_cons_of_mem c hd)]

/-- A pattern without a capital of its own can be lowered. -/
theorem textMatches_lower {pattern : String} (h : ¬ HasCapital pattern) (s : String) :
    textMatches (lower pattern) s = textMatches pattern s := by
  have hcaseless : ∀ c ∈ visible pattern, IsCaseless c := fun c hc ↦
    Classical.byContradiction fun hcapital ↦ h ⟨c, hc, hcapital⟩
  have hvisible : visible (lower pattern) = (visible pattern).map Char.toLower := by
    rw [visible, lower, String.toList_ofList]
    exact takeWhile_lowerAfter [] hcaseless
  rw [textMatches, hvisible, accepts_map_toLower, textMatches]

theorem exists_suffix_of_anySuffix {test : List Char → Bool} {s : List Char}
    (h : anySuffix test s = true) : ∃ rest, rest <:+ s ∧ test rest = true := by
  induction s with
  | nil => exact ⟨[], List.suffix_refl [], h⟩
  | cons c rest ih =>
    rw [anySuffix, Bool.or_eq_true] at h
    rcases h with h | h
    · exact ⟨c :: rest, List.suffix_refl _, h⟩
    · obtain ⟨tail, htail, htest⟩ := ih h
      exact ⟨tail, htail.trans (List.suffix_cons c rest), htest⟩

/-- Every character of a pattern but the wildcards stands for a character of the text. -/
theorem exists_toLower_eq_of_accepts {pattern s : List Char} (h : accepts pattern s = true)
    {c : Char} (hc : c ∈ pattern) (hany : c ≠ '%') (hone : c ≠ '_') :
    ∃ d ∈ s, c.toLower = d.toLower := by
  induction pattern generalizing s with
  | nil => cases hc
  | cons first rest ih =>
    rw [accepts] at h
    split at h
    · rename_i hfirst
      obtain ⟨tail, htail, haccepts⟩ := exists_suffix_of_anySuffix h
      obtain ⟨d, hd, heq⟩ := ih haccepts ((List.mem_cons.mp hc).resolve_left (hfirst ▸ hany))
      exact ⟨d, htail.mem hd, heq⟩
    · rcases s with _ | ⟨d, tail⟩
      · cases h
      · rw [oneThen, Bool.and_eq_true, Bool.or_eq_true, beq_iff_eq, beq_iff_eq] at h
        rcases List.mem_cons.mp hc with rfl | hc
        · exact ⟨d, List.mem_cons_self, h.1.resolve_left hone⟩
        · obtain ⟨d', hd', heq⟩ := ih h.2 hc
          exact ⟨d', List.mem_cons_of_mem d hd', heq⟩

/-- A text in lower case has no letter for a capital outside of ASCII. -/
theorem textMatches_of_hasCapital {pattern s : String} (h : HasCapital pattern)
    (hs : ∀ c ∈ visible s, IsCaseless c) : textMatches pattern s = false := by
  obtain ⟨c, hc, hcapital⟩ := h
  obtain ⟨hascii, hsettled⟩ := not_or.mp hcapital
  rw [Bool.eq_false_iff]
  intro hmatches
  obtain ⟨d, hd, heq⟩ := exists_toLower_eq_of_accepts hmatches hc
    (by rintro rfl; exact hascii (by decide)) (by rintro rfl; exact hascii (by decide))
  rw [Text.toLower_of_not_ascii (Nat.le_of_not_lt hascii)] at heq
  by_cases hdascii : d.toNat < 128
  · exact hascii (heq ▸ Text.ascii_toLower hdascii)
  · rw [Text.toLower_of_not_ascii (Nat.le_of_not_lt hdascii)] at heq
    exact hsettled (heq ▸ (hs d hd).resolve_left hdascii)

/-- A text in lower case is an instance of a pattern exactly if it is one without regard to case and
the pattern has no capital of its own. -/
theorem textMatches_iff {s : String} (hs : ∀ c ∈ visible s, IsCaseless c) (pattern : String) :
    textMatches pattern s = true ↔
      ¬ HasCapital pattern ∧ textMatches (lower pattern) s = true := by
  by_cases h : HasCapital pattern
  · simp [h, textMatches_of_hasCapital h hs]
  · simp [h, textMatches_lower h]

end Barometer.Store.Pattern
