import Barometer.Proofs.Text.Canonical

/-!
# Signs in canonical forms

Controls, quotes and the other signs of ASCII before the digits, and invisible characters, are the
lower case of themselves only. So a canonical form holds a wildcard if and only if the compatibility
form of its text does, and no canonical form holds anything that is dropped or softened.
-/

namespace Barometer.Text

/-- Characters that have no case: controls, the signs of ASCII before the digits, and what is
invisible. -/
def signRanges : List (Nat × Nat) := (0, 0x2F) :: (0x7F, 0x9F) :: Canonical.invisibleRanges

def isSign (c : Char) : Bool := Table.covers signRanges c

/-- The images of the table of lower case are characters, and each lies before or behind every range
of signs. -/
theorem images_avoid_signs : (lowerRuns.all fun run ↦
    ((run.image + (run.last - run.first)).blt 0xD800 ||
      (0xDFFF).blt run.image && (run.image + (run.last - run.first)).blt 0x110000) &&
    signRanges.all fun range ↦
      (run.image + (run.last - run.first)).blt range.1 || range.2.blt run.image) = true := by
  simp only [lowerRuns, Table.runs, Table.entries, List.flatMap_cons, List.flatMap_nil]
  repeat rw [String.toList_ofList]
  decide +kernel

theorem toNat_of_image? {c : Char} {m : Nat} (h : Table.image? lowerRuns c = some m) :
    (Char.ofNat m).toNat = m := by
  obtain ⟨run, hrun, hm⟩ := List.exists_of_findSome?_eq_some h
  obtain ⟨hfirst, hlast, himage⟩ := Table.Run.at?_eq_some hm
  have havoid := List.all_eq_true.mp images_avoid_signs run hrun
  simp only [Bool.and_eq_true, Bool.or_eq_true, Nat.blt_eq] at havoid
  have hvalid : m.isValidChar := by
    rw [Nat.isValidChar]
    omega
  rw [Char.ofNat, dif_pos hvalid]
  rfl

/-- Lowering never leads to a sign. -/
theorem isSign_of_image? {c : Char} {m : Nat} (h : Table.image? lowerRuns c = some m) :
    isSign (Char.ofNat m) = false := by
  obtain ⟨run, hrun, hm⟩ := List.exists_of_findSome?_eq_some h
  obtain ⟨hfirst, hlast, himage⟩ := Table.Run.at?_eq_some hm
  have havoid := List.all_eq_true.mp images_avoid_signs run hrun
  rw [Bool.and_eq_true, List.all_eq_true] at havoid
  simp only [Bool.or_eq_true, Nat.blt_eq] at havoid
  have hcode := toNat_of_image? h
  have hlow : run.image ≤ (Char.ofNat m).toNat := by omega
  have hhigh : (Char.ofNat m).toNat ≤ run.image + (run.last - run.first) := by omega
  exact Table.covers_eq_false (fun range hrange ↦ (havoid.2 range hrange).symm) hlow hhigh

/-- A sign is the lower case of itself only. -/
theorem eq_of_mem_lowerLetter {c d : Char} (hd : d ∈ lowerLetter c) (hsign : isSign d = true) :
    c = d := by
  unfold lowerLetter at hd
  split at hd
  · rename_i hcode
    cases List.mem_singleton.mp hd
    by_cases hcapital : 65 ≤ c.toNat ∧ c.toNat ≤ 90
    · have hlower := toNat_toLower c
      rw [if_pos hcapital] at hlower
      have hletters : ∀ range ∈ signRanges, range.2 < 97 ∨ 122 < range.1 := by decide
      have hnone := Table.covers_eq_false hletters (by omega : 97 ≤ c.toLower.toNat) (by omega)
      rw [isSign, hnone] at hsign
      cases hsign
    · exact (toLower_eq_self (by omega)).symm
  · split at hd
    · have hparts : ['i', Char.ofNat 0x307].all (fun d ↦ !isSign d) = true := by decide
      have hnone := List.all_eq_true.mp hparts d hd
      rw [hsign] at hnone
      cases hnone
    · rw [List.mem_singleton] at hd
      cases himage : Table.image? lowerRuns c with
      | none =>
        rw [himage] at hd
        exact hd.symm
      | some m =>
        rw [himage] at hd
        rw [hd, Option.map_some, Option.getD_some, isSign_of_image? himage] at hsign
        cases hsign

/-- Lower case neither adds nor takes away a sign. -/
theorem mem_of_mem_lowerAfter {seen s : List Char} {d : Char} (hd : d ∈ lowerAfter seen s)
    (hsign : isSign d = true) : d ∈ s := by
  induction s generalizing seen with
  | nil => cases hd
  | cons c rest ih =>
    rw [lowerAfter, List.mem_append] at hd
    rcases hd with hd | hd
    · split at hd
      · have hsigma : ['ς', 'σ'].all (fun d ↦ !isSign d) = true := by decide
        have hmem : d ∈ ['ς', 'σ'] := by
          rw [List.mem_singleton.mp hd]
          split <;> simp
        have hnone := List.all_eq_true.mp hsigma d hmem
        rw [hsign] at hnone
        cases hnone
      · rw [eq_of_mem_lowerLetter hd hsign]
        exact List.mem_cons_self
    · exact List.mem_cons_of_mem c (ih hd)

theorem mem_lowerAfter_of_isSettled (seen : List Char) {s : List Char} {d : Char} (hd : d ∈ s)
    (hsettled : IsSettled d) : d ∈ lowerAfter seen s := by
  induction s generalizing seen with
  | nil => cases hd
  | cons c rest ih =>
    rw [lowerAfter, List.mem_append]
    rcases List.mem_cons.mp hd with rfl | hd
    · left
      rw [if_neg hsettled.ne_sigma, hsettled.lowerLetter_eq]
      exact List.mem_singleton_self d
    · exact .inr (ih (c :: seen) hd)

/-- A sign that texts are not split at stays in one of the parts. -/
theorem exists_mem_splitWhen {p : Char → Bool} {s : List Char} {c : Char} (hc : c ∈ s)
    (hp : p c = false) : ∃ part ∈ splitWhen p s, c ∈ part := by
  induction s with
  | nil => cases hc
  | cons d rest ih =>
    rw [splitWhen]
    split
    · rename_i hsplit
      rcases List.mem_cons.mp hc with rfl | hc
      · exact ⟨[c], List.mem_cons_self, List.mem_cons_self⟩
      · obtain ⟨part, hpart, -⟩ := ih hc
        rw [hsplit] at hpart
        cases hpart
    · rename_i first others hsplit
      rcases List.mem_cons.mp hc with rfl | hc
      · rw [if_neg (by simp [hp])]
        exact ⟨c :: first, List.mem_cons_self, List.mem_cons_self⟩
      · obtain ⟨part, hpart, hmem⟩ := ih hc
        rw [hsplit] at hpart
        split
        · exact ⟨part, List.mem_cons_of_mem [] hpart, hmem⟩
        · rcases List.mem_cons.mp hpart with rfl | hpart
          · exact ⟨d :: part, List.mem_cons_self, List.mem_cons_of_mem d hmem⟩
          · exact ⟨part, List.mem_cons_of_mem _ hpart, hmem⟩

namespace Canonical

theorem mem_joined {ws : List (List Char)} {word : List Char} (hword : word ∈ ws) {c : Char}
    (hc : c ∈ word) : c ∈ joined ws := by
  induction ws with
  | nil => cases hword
  | cons first rest ih =>
    rcases rest with _ | ⟨next, others⟩
    · rw [List.mem_singleton.mp hword] at hc
      simpa using hc
    · rw [joined_cons_cons, List.mem_append, List.mem_cons]
      rcases List.mem_cons.mp hword with rfl | hword
      · exact .inl hc
      · exact .inr (.inr (ih hword))

/-- What is no blank stands in the words of a text. -/
theorem mem_joined_words_iff {s : List Char} {c : Char} (hc : isBlank c = false) :
    c ∈ joined (words s) ↔ c ∈ s := by
  constructor
  · intro h
    rcases mem_of_mem_joined h with rfl | ⟨word, hword, hmem⟩
    · cases hc
    · exact mem_of_mem_splitWhen (List.mem_filter.mp hword).1 hmem
  · intro h
    obtain ⟨part, hpart, hmem⟩ := exists_mem_splitWhen h hc
    have hnonempty : (!part.isEmpty) = true := by
      cases part with
      | nil => cases hmem
      | cons d rest => rfl
    exact mem_joined (List.mem_filter.mpr ⟨hpart, hnonempty⟩) hmem

/-- A folded text holds a wildcard exactly if the compatibility form does, which may have made it of
another character. -/
theorem wildcard_mem_folded_iff {s : List Char} :
    '%' ∈ folded s ↔ '%' ∈ Compatibility.normalForm s := by
  have hsoften (c : Char) : soften c = '%' ↔ c = '%' := by
    unfold soften
    split
    · rename_i hquote
      constructor
      · exact fun hspace ↦ absurd hspace (by decide)
      · rintro rfl
        exact absurd hquote (by decide)
    · rfl
  constructor
  · intro hmem
    have hfiltered := mem_of_mem_lowerAfter hmem (by decide)
    obtain ⟨c, hc, heq⟩ := List.mem_map.mp (List.mem_filter.mp hfiltered).1
    rwa [(hsoften c).mp heq] at hc
  · intro hmem
    refine mem_lowerAfter_of_isSettled [] (List.mem_filter.mpr ⟨?_, by decide⟩)
      ⟨by decide, by decide⟩
    exact List.mem_map.mpr ⟨'%', hmem, (hsoften '%').mpr rfl⟩

/-- A wildcard in a canonical text has been one in the compatibility form. -/
theorem wildcard_mem_iff {s form : String} (h : text? s = some form) :
    '%' ∈ form.toList ↔ '%' ∈ Compatibility.normalForm s.toList := by
  rw [toList_of_text?_eq_some h, mem_joined_words_iff (by decide), wildcard_mem_folded_iff]

/-- A text with a wildcard has a word. -/
theorem exists_text?_of_wildcard_mem {s : String} (h : '%' ∈ Compatibility.normalForm s.toList) :
    ∃ form, text? s = some form := by
  have hmem : '%' ∈ joined (words (folded s.toList)) := by
    rwa [mem_joined_words_iff (by decide), wildcard_mem_folded_iff]
  rw [text?]
  split
  · rename_i hnil
    rw [hnil] at hmem
    cases hmem
  · exact ⟨_, rfl⟩

end Canonical

end Barometer.Text
