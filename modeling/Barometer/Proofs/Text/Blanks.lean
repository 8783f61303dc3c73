import Barometer.Proofs.Text.Fixpoints
import Barometer.Proofs.Text.Letters
import Barometer.Text.Quoted
import Mathlib.Data.Bool.AllAny

/-!
# The shape of canonical forms

A canonical form is a text that can stand between quotes: it is not empty, nothing in it is a quote
or invisible, it is in lower case, and its only blanks are single spaces between other characters.
Lower case neither makes nor removes a blank, so a text has no canonical form exactly if its
compatibility form is made of blanks, quotes and invisible characters.
-/

namespace Barometer.Text

/-- The runs of the table of lower case, and their images, lie before or behind every range of
blanks. -/
theorem lowerRuns_avoid_blanks : (lowerRuns.all fun run ↦ blankRanges.all fun range ↦
    (run.last.blt range.1 || range.2.blt run.first) &&
      ((run.image + (run.last - run.first)).blt range.1 || range.2.blt run.image)) = true := by
  simp only [blankRanges_eq, lowerRuns, Table.runs, Table.entries, List.flatMap_cons,
    List.flatMap_nil]
  repeat rw [String.toList_ofList]
  decide +kernel

/-- Neither is a blank changed, nor does a blank come of another character. -/
theorem isBlank_of_image? {c : Char} {m : Nat} (h : Table.image? lowerRuns c = some m) :
    isBlank c = false ∧ isBlank (Char.ofNat m) = false := by
  obtain ⟨run, hrun, hm⟩ := List.exists_of_findSome?_eq_some h
  obtain ⟨hfirst, hlast, himage⟩ := Table.Run.at?_eq_some hm
  have havoid := List.all_eq_true.mp (List.all_eq_true.mp lowerRuns_avoid_blanks run hrun)
  simp only [Bool.and_eq_true, Bool.or_eq_true, Nat.blt_eq] at havoid
  have hcode := toNat_of_image? h
  have hlow : run.image ≤ (Char.ofNat m).toNat := by omega
  have hhigh : (Char.ofNat m).toNat ≤ run.image + (run.last - run.first) := by omega
  exact ⟨Table.covers_eq_false (fun range hrange ↦ (havoid range hrange).1.symm) hfirst hlast,
    Table.covers_eq_false (fun range hrange ↦ (havoid range hrange).2.symm) hlow hhigh⟩

/-- No letter becomes blank in lower case, and no blank becomes a letter. -/
theorem isBlank_of_mem_lowerLetter {c d : Char} (hd : d ∈ lowerLetter c) :
    isBlank d = isBlank c := by
  unfold lowerLetter at hd
  split at hd
  · rename_i hc
    rw [List.mem_singleton.mp hd]
    by_cases hcapital : 65 ≤ c.toNat ∧ c.toNat ≤ 90
    · have hlower := toNat_toLower c
      rw [if_pos hcapital] at hlower
      rw [isBlank_eq_false_of_letter (by omega) (by omega),
        isBlank_eq_false_of_letter (by omega) (by omega)]
    · rw [toLower_eq_self (by omega)]
  · split at hd
    · rename_i hc
      have hdotted : c = Char.ofNat 0x130 := Char.toNat_inj.mp hc
      have hparts : ∀ d ∈ ['i', Char.ofNat 0x307], isBlank d = isBlank (Char.ofNat 0x130) :=
        List.all_iff_forall_prop.mp (by decide)
      rw [hdotted]
      exact hparts d hd
    · rw [List.mem_singleton] at hd
      cases himage : Table.image? lowerRuns c with
      | none =>
        rw [hd, himage]
        rfl
      | some m =>
        obtain ⟨hblank, hblank'⟩ := isBlank_of_image? himage
        rw [hd, himage, Option.map_some, Option.getD_some, hblank, hblank']

/-- A text is made of blanks before it is lowered or after it, or neither. -/
theorem forall_isBlank_lowerAfter_iff (seen s : List Char) :
    (∀ c ∈ lowerAfter seen s, isBlank c = true) ↔ ∀ c ∈ s, isBlank c = true := by
  induction s generalizing seen with
  | nil => rfl
  | cons c rest ih =>
    rw [lowerAfter]
    split
    · rename_i hc
      have hsigma : isBlank 'Σ' = false ∧ isBlank 'ς' = false ∧ isBlank 'σ' = false := by
        decide
      refine iff_of_false (fun h ↦ ?_) fun h ↦ ?_
      · have hfirst := h _ (List.mem_append_left _ (List.mem_singleton_self _))
        split at hfirst
        · rw [hsigma.2.1] at hfirst
          cases hfirst
        · rw [hsigma.2.2] at hfirst
          cases hfirst
      · have hfirst := h c List.mem_cons_self
        rw [hc, hsigma.1] at hfirst
        cases hfirst
    · have hletter : (∀ d ∈ lowerLetter c, isBlank d = true) ↔ isBlank c = true := by
        obtain ⟨d, hd⟩ := List.exists_mem_of_ne_nil _ (lowerLetter_ne_nil c)
        exact ⟨fun h ↦ isBlank_of_mem_lowerLetter hd ▸ h d hd,
          fun h d hd ↦ (isBlank_of_mem_lowerLetter hd).trans h⟩
      rw [List.forall_mem_append, List.forall_mem_cons, hletter, ih]

namespace Canonical

/-- Words that are joined leave nothing only if there are none. -/
theorem joined_eq_nil_iff {ws : List (List Char)} (hnonempty : ∀ word ∈ ws, word ≠ []) :
    joined ws = [] ↔ ws = [] := by
  refine ⟨fun h ↦ ?_, fun h ↦ by rw [h]; rfl⟩
  cases ws with
  | nil => rfl
  | cons word rest =>
    obtain ⟨c, hc⟩ := List.exists_mem_of_ne_nil _ (hnonempty word List.mem_cons_self)
    have hmem := mem_joined (List.mem_cons_self (l := rest)) hc
    rw [h] at hmem
    cases hmem

/-- A text without words is made of blanks. -/
theorem words_eq_nil_iff {s : List Char} : words s = [] ↔ ∀ c ∈ s, isBlank c = true := by
  constructor
  · intro h c hc
    rw [← Bool.not_eq_false]
    intro hblank
    have hmem := (mem_joined_words_iff hblank).mpr hc
    rw [h] at hmem
    cases hmem
  · intro h
    rw [List.eq_nil_iff_forall_not_mem]
    intro word hword
    obtain ⟨c, hc⟩ := List.exists_mem_of_ne_nil _ (ne_nil_of_mem_words hword)
    have hmem := (mem_joined_words_iff (isBlank_of_mem_words hword hc)).mp (mem_joined hword hc)
    exact absurd (h c hmem) (by simp [isBlank_of_mem_words hword hc])

/-- A text has no canonical form if no words are left of it. -/
theorem text?_eq_none_iff_words {s : String} : text? s = none ↔ words (folded s.toList) = [] := by
  rw [← joined_eq_nil_iff fun word hword ↦ ne_nil_of_mem_words hword, text?]
  split
  · rename_i h
    simp [h]
  · rename_i h
    simpa using h

/-- A blank or a quote separates words, and nothing invisible is kept. -/
theorem soften_isBlank_iff (c : Char) :
    (isInvisible (soften c) = true ∨ isBlank (soften c) = true) ↔
      isBlank c = true ∨ isQuote c = true ∨ isInvisible c = true := by
  unfold soften
  split
  · rename_i h
    refine iff_of_true (.inr (by decide)) ?_
    rcases h with rfl | rfl | rfl | rfl | rfl <;> decide
  · rename_i h
    have hquote : isQuote c = false := by
      simp only [not_or] at h
      simp [isQuote, h]
    rw [hquote, or_comm]
    simp

/-- What is left of a text is empty if all signs of its compatibility form are blank or dropped. -/
theorem text?_eq_none_iff (s : String) :
    text? s = none ↔ ∀ c ∈ Compatibility.normalForm s.toList,
      isBlank c = true ∨ isQuote c = true ∨ isInvisible c = true := by
  rw [text?_eq_none_iff_words, words_eq_nil_iff, folded, forall_isBlank_lowerAfter_iff]
  simp only [List.mem_filter, List.mem_map, ← soften_isBlank_iff]
  constructor
  · intro h c hc
    by_cases hinvisible : isInvisible (soften c) = true
    · exact .inl hinvisible
    · exact .inr (h (soften c) ⟨⟨c, hc, rfl⟩, by simp [hinvisible]⟩)
  · rintro h _ ⟨⟨c, hc, rfl⟩, hvisible⟩
    exact (h c hc).resolve_left fun hinvisible ↦ by simp [hinvisible] at hvisible

/-- Every blank of a text is a space, and stands between two characters that are none. -/
def IsSpaced (s : List Char) : Prop :=
  ∀ front c back, s = front ++ c :: back → isBlank c = true →
    c = ' ' ∧ (∃ a, front.getLast? = some a ∧ isBlank a = false) ∧
      ∃ b, back.head? = some b ∧ isBlank b = false

/-- Two texts with a blank between them are spaced if neither has one at this end. -/
theorem IsSpaced.append_space {s t : List Char} (hs : IsSpaced s) (ht : IsSpaced t)
    (hlast : ∃ a, s.getLast? = some a ∧ isBlank a = false)
    (hhead : ∃ b, t.head? = some b ∧ isBlank b = false) : IsSpaced (s ++ ' ' :: t) := by
  intro front c back h hc
  rcases List.append_eq_append_iff.mp h with ⟨between, rfl, hback⟩ | ⟨between, rfl, hback⟩
  · rcases between with _ | ⟨space, between⟩
    · cases hback
      rw [List.append_nil]
      exact ⟨rfl, hlast, hhead⟩
    · obtain ⟨rfl, ht'⟩ := List.cons.inj hback
      obtain ⟨hspace, ⟨a, ha, hablank⟩, hnext⟩ := ht between c back ht' hc
      refine ⟨hspace, ⟨a, ?_, hablank⟩, hnext⟩
      simp [List.getLast?_append, List.getLast?_cons, ha]
  · rcases between with _ | ⟨first, between⟩
    · cases hback
      rw [List.append_nil] at hlast
      exact ⟨rfl, hlast, hhead⟩
    · obtain ⟨rfl, rfl⟩ := List.cons.inj hback
      obtain ⟨hspace, hbefore, b, hb, hbblank⟩ := hs front c between rfl hc
      refine ⟨hspace, hbefore, b, ?_, hbblank⟩
      simp [List.head?_append, hb]

theorem exists_head?_joined {word : List Char} (hword : word ≠ [])
    (hblank : ∀ c ∈ word, isBlank c = false) (rest : List (List Char)) :
    ∃ b, (joined (word :: rest)).head? = some b ∧ isBlank b = false := by
  obtain ⟨b, others, rfl⟩ := List.exists_cons_of_ne_nil hword
  refine ⟨b, ?_, hblank b List.mem_cons_self⟩
  cases rest with
  | nil => simp
  | cons next rest => simp [joined_cons_cons]

/-- Words are joined with one blank between two of them. -/
theorem isSpaced_joined {ws : List (List Char)} (hnonempty : ∀ word ∈ ws, word ≠ [])
    (hblank : ∀ word ∈ ws, ∀ c ∈ word, isBlank c = false) : IsSpaced (joined ws) := by
  have hword {word : List Char} (h : ∀ c ∈ word, isBlank c = false) : IsSpaced word := by
    rintro front c back rfl hc
    rw [h c (by simp)] at hc
    cases hc
  induction ws with
  | nil => exact hword fun c hc ↦ nomatch hc
  | cons word rest ih =>
    have hfirst := hblank word List.mem_cons_self
    rcases rest with _ | ⟨next, others⟩
    · rw [joined_singleton]
      exact hword hfirst
    · rw [List.forall_mem_cons] at hnonempty hblank
      obtain ⟨hne, hnonempty⟩ := hnonempty
      have hlast : ∃ a, word.getLast? = some a ∧ isBlank a = false :=
        ⟨word.getLast hne, List.getLast?_eq_some_getLast _, hfirst _ (List.getLast_mem _)⟩
      have hhead := exists_head?_joined (hnonempty next List.mem_cons_self)
        (hblank.2 next List.mem_cons_self) others
      rw [joined_cons_cons]
      exact (hword hfirst).append_space (ih hnonempty hblank.2) hlast hhead

/-- A text that can be written between quotes and compared as it is. -/
structure IsPlainText (t : String) : Prop where
  ne_empty : t ≠ ""
  not_quote : ∀ c ∈ t.toList, isQuote c = false
  not_control : ∀ c ∈ t.toList, isControl c = false
  not_listed : ∀ c ∈ t.toList, Table.covers invisibleRanges c = false
  spaced : IsSpaced t.toList
  lower_eq : lower t = t

theorem isQuote_of_soften_eq {c : Char} (h : soften c = c) : isQuote c = false := by
  rw [Bool.eq_false_iff]
  intro hquote
  rw [isQuote, Bool.or_eq_true, beq_iff_eq, beq_iff_eq] at hquote
  rcases hquote with rfl | rfl
  · exact absurd h (by decide)
  · exact absurd h (by decide)

/-- A canonical text has no quotes and no signs that cannot be seen. -/
theorem isPlainText_of_text?_eq_some {s t : String} (h : text? s = some t) : IsPlainText t := by
  have hvisible (c : Char) (hc : c ∈ t.toList) : isInvisible c = false := by
    rcases mem_of_text?_eq_some h hc with rfl | hc
    · decide
    · exact isInvisible_of_mem_folded hc
  simp only [isInvisible, Bool.or_eq_false_iff] at hvisible
  refine ⟨?_, fun c hc ↦ ?_, fun c hc ↦ (hvisible c hc).1, fun c hc ↦ (hvisible c hc).2, ?_,
    lower_of_text?_eq_some h⟩
  · rintro rfl
    have hnil := (joined_eq_nil_iff fun word hword ↦ ne_nil_of_mem_words hword).mp
      (toList_of_text?_eq_some h).symm
    rw [text?_eq_none_iff_words.mpr hnil] at h
    cases h
  · rcases mem_of_text?_eq_some h hc with rfl | hc
    · decide
    · exact isQuote_of_soften_eq (soften_of_mem_folded hc)
  · rw [toList_of_text?_eq_some h]
    exact isSpaced_joined (fun word hword ↦ ne_nil_of_mem_words hword) fun word hword c hc ↦
      isBlank_of_mem_words hword hc

end Canonical

end Barometer.Text
