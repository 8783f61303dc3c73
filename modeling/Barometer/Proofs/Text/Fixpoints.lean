import Barometer.Proofs.Text.Signs

/-!
# Canonical forms of canonical forms

Nothing invisible and no quote is left in a canonical form, it is in lower case, and its words stand
one space apart.  So a second canonical form differs from the first one only through a second
compatibility form: where characters were dropped or lowered, a letter and a mark may stand together
that have a composite.
-/

namespace Barometer.Text

theorem splitWhen_ne_nil (p : Char → Bool) (s : List Char) : splitWhen p s ≠ [] := by
  cases s with
  | nil => simp [splitWhen]
  | cons c rest =>
    rw [splitWhen]
    split
    · simp
    · split <;> simp

/-- What texts are split at is not in the parts. -/
theorem eq_false_of_mem_splitWhen {p : Char → Bool} {s part : List Char}
    (hpart : part ∈ splitWhen p s) {c : Char} (hc : c ∈ part) : p c = false := by
  induction s generalizing part with
  | nil =>
    rw [List.mem_singleton.mp hpart] at hc
    cases hc
  | cons d rest ih =>
    rw [splitWhen] at hpart
    split at hpart
    · rename_i hsplit
      exact absurd hsplit (splitWhen_ne_nil p rest)
    · rename_i first others hsplit
      rw [hsplit] at ih
      split at hpart
      · rcases List.mem_cons.mp hpart with rfl | hpart
        · cases hc
        · exact ih hpart hc
      · rename_i hd
        rcases List.mem_cons.mp hpart with rfl | hpart
        · rcases List.mem_cons.mp hc with rfl | hc
          · exact Bool.eq_false_iff.mpr hd
          · exact ih List.mem_cons_self hc
        · exact ih (List.mem_cons_of_mem first hpart) hc

/-- A separator ends the first part. -/
theorem splitWhen_append_cons {p : Char → Bool} {part : List Char} (hpart : ∀ c ∈ part, p c = false)
    {separator : Char} (hseparator : p separator = true) (s : List Char) :
    splitWhen p (part ++ separator :: s) = part :: splitWhen p s := by
  induction part with
  | nil =>
    obtain ⟨first, others, hsplit⟩ := List.exists_cons_of_ne_nil (splitWhen_ne_nil p s)
    rw [List.nil_append, splitWhen, hsplit]
    exact if_pos hseparator
  | cons c part ih =>
    have hc := hpart c List.mem_cons_self
    rw [List.cons_append, splitWhen, ih fun d hd ↦ hpart d (List.mem_cons_of_mem c hd)]
    simp [hc]

namespace Canonical

/-- Words that are joined come apart as the same words. -/
theorem words_joined {ws : List (List Char)} (hnonempty : ∀ word ∈ ws, word ≠ [])
    (hblank : ∀ word ∈ ws, ∀ c ∈ word, isBlank c = false) : words (joined ws) = ws := by
  induction ws with
  | nil => rfl
  | cons word rest ih =>
    have hkept : (!word.isEmpty) = true := by
      simpa using hnonempty word List.mem_cons_self
    have hword := hblank word List.mem_cons_self
    rcases rest with _ | ⟨next, others⟩
    · rw [joined_singleton, words, splitWhen_of_forall hword, List.filter_cons, if_pos hkept,
        List.filter_nil]
    · have hrest := ih (fun other hother ↦ hnonempty other (List.mem_cons_of_mem word hother))
        fun other hother ↦ hblank other (List.mem_cons_of_mem word hother)
      rw [words] at hrest
      rw [joined_cons_cons, words, splitWhen_append_cons hword (by decide), List.filter_cons,
        if_pos hkept, hrest]

theorem ne_nil_of_mem_words {s word : List Char} (h : word ∈ words s) : word ≠ [] := by
  simpa using (List.mem_filter.mp h).2

theorem isBlank_of_mem_words {s word : List Char} (h : word ∈ words s) {c : Char} (hc : c ∈ word) :
    isBlank c = false :=
  eq_false_of_mem_splitWhen (List.mem_filter.mp h).1 hc

/-- The words of a text stay the same when they are joined and taken apart again. -/
theorem words_joined_words (s : List Char) : words (joined (words s)) = words s :=
  words_joined (fun _ hword ↦ ne_nil_of_mem_words hword) fun _ hword _ hc ↦
    isBlank_of_mem_words hword hc

theorem isSign_of_isInvisible {c : Char} (hc : isInvisible c = true) : isSign c = true := by
  rw [isInvisible, isControl, Table.covers, Bool.or_eq_true, Bool.or_eq_true] at hc
  rw [isSign, Table.covers, signRanges, List.any_cons, List.any_cons]
  rcases hc with (hlow | hhigh) | hrange
  · simp only [decide_eq_true_eq] at hlow
    simp
    omega
  · simp only [decide_eq_true_eq] at hhigh
    simp
    omega
  · rw [hrange]
    simp

theorem isSign_of_soften_ne {c : Char} (hc : soften c ≠ c) : isSign c = true := by
  unfold soften at hc
  split at hc
  · rename_i hquote
    rcases hquote with rfl | rfl | rfl | rfl | rfl <;> decide
  · exact absurd rfl hc

/-- The blanks that quotes become are no quotes. -/
theorem soften_soften (c : Char) : soften (soften c) = soften c := by
  unfold soften
  split
  · decide
  · rfl

theorem isInvisible_of_mem_folded {s : List Char} {c : Char} (hc : c ∈ folded s) :
    isInvisible c = false := by
  rw [Bool.eq_false_iff]
  intro hinvisible
  have hmem := mem_of_mem_lowerAfter hc (isSign_of_isInvisible hinvisible)
  have hvisible := (List.mem_filter.mp hmem).2
  rw [hinvisible] at hvisible
  cases hvisible

theorem soften_of_mem_folded {s : List Char} {c : Char} (hc : c ∈ folded s) : soften c = c := by
  refine Decidable.byContradiction fun hsoften ↦ ?_
  have hmem := mem_of_mem_lowerAfter hc (isSign_of_soften_ne hsoften)
  obtain ⟨d, -, rfl⟩ := List.mem_map.mp (List.mem_filter.mp hmem).1
  exact hsoften (soften_soften d)

/-- Joining words adds spaces only, which are visible and no quotes. -/
theorem mem_of_text?_eq_some {s form : String} (h : text? s = some form) {c : Char}
    (hc : c ∈ form.toList) : c = ' ' ∨ c ∈ folded s.toList := by
  rw [toList_of_text?_eq_some h] at hc
  refine (mem_of_mem_joined hc).imp_right ?_
  rintro ⟨word, hword, hmem⟩
  exact mem_of_mem_splitWhen (List.mem_filter.mp hword).1 hmem

/-- A canonical form in compatibility form is folded already. -/
theorem folded_of_text?_eq_some {s form : String} (h : text? s = some form)
    (hform : Compatibility.normalForm form.toList = form.toList) :
    folded form.toList = form.toList := by
  have hsoft : form.toList.map soften = form.toList := by
    have heach : ∀ c ∈ form.toList, soften c = c := by
      intro c hc
      rcases mem_of_text?_eq_some h hc with rfl | hc
      · decide
      · exact soften_of_mem_folded hc
    rw [List.map_congr_left heach, List.map_id']
  have hvisible : (form.toList.filter fun c ↦ !isInvisible c) = form.toList := by
    rw [List.filter_eq_self]
    intro c hc
    rcases mem_of_text?_eq_some h hc with rfl | hc
    · decide
    · rw [isInvisible_of_mem_folded hc]
      rfl
  rw [folded, hform, hsoft, hvisible, lowerAfter_of_isSettled [] (isSettled_of_text?_eq_some h)]

/-- A canonical form that is its own compatibility form is its own canonical form. -/
theorem text?_eq_self {s form : String} (h : text? s = some form)
    (hform : Compatibility.normalForm form.toList = form.toList) : text? form = some form := by
  have hchars : joined (words form.toList) = form.toList := by
    rw [toList_of_text?_eq_some h, words_joined_words]
  have hnonempty : form.toList ≠ [] := by
    intro hnil
    have hform := toList_of_text?_eq_some h
    rw [hnil] at hform
    rw [text?, ← hform] at h
    cases h
  rw [text?, folded_of_text?_eq_some h hform, hchars]
  split
  · rename_i hnil
    exact absurd hnil hnonempty
  · rw [String.ofList_toList]

/-- Wide signs, quotes, a control and a line end, and a text that no second pass changes. -/
theorem text?_eq_self_wide :
    text? "'％ FRA\x07NCE'\r\n ％" = some "% france %" ∧
      Compatibility.normalForm "% france %".toList = "% france %".toList ∧
      text? "% france %" = some "% france %" := by
  have htext : text? "'％ FRA\x07NCE'\r\n ％" = some "% france %" := by decide
  have hform : Compatibility.normalForm "% france %".toList = "% france %".toList := by
    decide
  exact ⟨htext, hform, text?_eq_self htext hform⟩

end Canonical

/-! ## A canonical form that does not stay

A soft hyphen keeps a letter and a mark apart, and it is dropped after the compatibility form was
taken. -/

namespace Accents

open Compatibility Canonical

/-- A letter, a soft hyphen and a dot above. -/
def typed : String := String.ofList ['e', '\u00ad', '\u0307']

/-- A letter and a dot above, which have a composite. -/
def stored : String := String.ofList ['e', '\u0307']

/-- Neither of the two marks has parts. -/
theorem parts_marks : parts '\u00ad' = ['\u00ad'] ∧ parts '\u0307' = ['\u0307'] := by
  have hhyphen : decompositionPages.lookup ('\u00ad'.toNat / 256) = decompositionPages.lookup 0 :=
    rfl
  have hdot : decompositionPages.lookup ('\u0307'.toNat / 256) = decompositionPages.lookup 3 := rfl
  rw [parts, parts, hhyphen, hdot]
  simp only [decompositionPages, List.lookup_cons, Nat.reduceBEq, Table.expansions, Table.entries,
    List.flatMap_cons, List.flatMap_nil]
  -- The lines of a table are read fast once they are lists of characters.
  repeat rw [String.toList_ofList]
  decide

/-- The dot is composed with the letter, and not with the soft hyphen. -/
theorem compose?_dotAbove :
    compose? '\u00ad' '\u0307' = none ∧ compose? 'e' '\u0307' = some 'ė' := by
  have hpage : compositionPages.lookup '\u0307'.toNat = compositionPages.lookup 0x307 := rfl
  rw [compose?, compose?, hpage]
  simp only [compositionPages, List.lookup_cons, Nat.reduceBEq, Table.expansions, Table.entries,
    List.flatMap_cons, List.flatMap_nil]
  repeat rw [String.toList_ofList]
  decide

theorem order_singleton (c : Char) : order [c] = [c] := by
  rw [order]
  split <;> rfl

/-- Of two characters, whatever the class of the second one is, the composite is left if there is
one. -/
theorem composeFrom_singleton (starter c : Char) :
    composeFrom starter [] [c] = ((compose? starter c).map fun d ↦ [d]).getD [starter, c] := by
  rw [composeFrom]
  cases hcomposite : compose? starter c with
  | some composite => rfl
  | none =>
    simp only [if_neg Bool.false_ne_true]
    split <;> rfl

/-- Nothing is composed across the soft hyphen. -/
theorem normalForm_typed : normalForm typed.toList = ['e', '\u00ad', '\u0307'] := by
  have hletter : combiningClass 'e' = 0 := rfl
  have hhyphen : combiningClass '\u00ad' = 0 := rfl
  have hapart : compose? 'e' '\u00ad' = none := by decide
  have hparts : typed.toList.flatMap parts = ['e', '\u00ad', '\u0307'] := by
    rw [typed, String.toList_ofList, List.flatMap_cons, List.flatMap_cons, List.flatMap_singleton,
      parts_marks.1, parts_marks.2, parts_of_ascii (by decide)]
    rfl
  have horder : order ['e', '\u00ad', '\u0307'] = ['e', '\u00ad', '\u0307'] := by
    rw [order, if_pos hletter, order, if_pos hhyphen, order_singleton]
  have hpair : composeFrom '\u00ad' [] ['\u0307'] = ['\u00ad', '\u0307'] := by
    rw [composeFrom_singleton, compose?_dotAbove.1]
    rfl
  rw [normalForm, hparts, horder, composeAll, if_pos hletter, composeFrom,
    if_neg Bool.false_ne_true, hapart]
  simp only
  rw [if_pos hhyphen, hpair]
  rfl

/-- Once the soft hyphen is gone letter and dot become one sign. -/
theorem normalForm_stored : normalForm stored.toList = ['ė'] := by
  have hletter : combiningClass 'e' = 0 := rfl
  have hparts : stored.toList.flatMap parts = ['e', '\u0307'] := by
    rw [stored, String.toList_ofList, List.flatMap_cons, List.flatMap_singleton, parts_marks.2,
      parts_of_ascii (by decide)]
    rfl
  rw [normalForm, hparts, order, if_pos hletter, order_singleton, composeAll, if_pos hletter,
    composeFrom_singleton, compose?_dotAbove.2]
  rfl

/-- The mark is left by lowering a capital, and so it has no lower case of its own. -/
theorem text?_typed : text? typed = some stored := by
  have hmark : IsSettled '\u0307' :=
    isSettled_of_mem_capitals (n := 0x130) (m := 0x307) (by simp [capitals])
  have hsettled : ∀ c ∈ ['e', '\u0307'], IsSettled c := by
    simp only [List.forall_mem_cons, List.not_mem_nil, false_imp_iff, implies_true, and_true]
    exact ⟨⟨by decide, by decide⟩, hmark⟩
  have hfolded : folded typed.toList = ['e', '\u0307'] := by
    have hvisible : ((['e', '\u00ad', '\u0307'].map soften).filter fun c ↦ !isInvisible c) =
        ['e', '\u0307'] := by
      decide
    rw [folded, normalForm_typed, hvisible, lowerAfter_of_isSettled [] hsettled]
  have hjoined : joined (words ['e', '\u0307']) = ['e', '\u0307'] := by decide
  rw [text?, hfolded, hjoined]
  rfl

/-- The composite is one character, and one character has no canonical form of two. -/
theorem text?_stored_ne : text? stored ≠ some stored := by
  intro h
  have hsingle : ∃ c, folded stored.toList = [c] := by
    have hvisible : ((['ė'].map soften).filter fun c ↦ !isInvisible c) = ['ė'] := by decide
    rw [folded, normalForm_stored, hvisible, lowerAfter, if_neg (by decide), lowerLetter,
      if_neg (by decide), if_neg (by decide)]
    exact ⟨_, rfl⟩
  obtain ⟨c, hc⟩ := hsingle
  have hstored : stored.toList = ['e', '\u0307'] := String.toList_ofList
  have hletter := mem_of_text?_eq_some h (c := 'e') (by simp [hstored])
  have hmark := mem_of_text?_eq_some h (c := '\u0307') (by simp [hstored])
  rw [hc, List.mem_singleton] at hletter hmark
  rcases hletter with hspace | rfl
  · exact absurd hspace (by decide)
  · exact absurd hmark (by decide)

/-- A soft hyphen keeps a letter and a mark apart, and it is dropped after the compatibility form
was taken. -/
theorem not_text?_text? : ¬ ∀ s form : String, text? s = some form → text? form = some form :=
  fun hall ↦ text?_stored_ne (hall typed stored text?_typed)

end Accents

end Barometer.Text
