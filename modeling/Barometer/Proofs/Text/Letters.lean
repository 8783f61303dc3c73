import Barometer.Proofs.Text.Signs

/-!
# Lower case letter by letter

Of all characters outside ASCII only two have an ASCII letter in their lower case: a dotted capital
and the sign of a unit. So the lower case of a text has the digits, signs and controls of the text,
and no others. Without a capital sigma, whose lower case depends on its neighbours, a text is
lowered letter by letter, and texts can be joined before or after.
-/

namespace Barometer.Text

theorem toLower_of_not_ascii {c : Char} (hc : 128 ≤ c.toNat) : c.toLower = c :=
  toLower_eq_self (by omega)

/-- Only a capital letter has another lower case. -/
theorem eq_of_toLower_eq {c d : Char} (h : c.toLower = d) (hd : d.isLower = false) : c = d := by
  have hlower : d.isLower = true ↔ 97 ≤ d.toNat ∧ d.toNat ≤ 122 := by
    delta Char.isLower
    rw [Bool.and_eq_true, decide_eq_true_eq, decide_eq_true_eq, ge_iff_le,
      UInt32.le_iff_toNat_le, UInt32.le_iff_toNat_le]
    rfl
  have hnone := mt hlower.mpr (Bool.eq_false_iff.mp hd)
  have hcode := toNat_toLower c
  rw [h] at hcode
  rw [← Char.toNat_inj]
  split at hcode <;> omega

/-- The table of lower case leads into ASCII only once, to the letter `k`. -/
theorem images_beyond_ascii : (lowerRuns.all fun run ↦
    (128).ble run.image || run.first == run.last && run.image == 'k'.toNat) = true := by
  simp only [lowerRuns, Table.runs, Table.entries, List.flatMap_cons, List.flatMap_nil]
  repeat rw [String.toList_ofList]
  decide +kernel

/-- Of all other letters only the sign for kelvins becomes a plain one. -/
theorem image?_beyond_ascii {c : Char} {m : Nat} (h : Table.image? lowerRuns c = some m) :
    128 ≤ m ∨ m = 'k'.toNat := by
  obtain ⟨run, hrun, hm⟩ := List.exists_of_findSome?_eq_some h
  obtain ⟨hfirst, hlast, himage⟩ := Table.Run.at?_eq_some hm
  have hbeyond := List.all_eq_true.mp images_beyond_ascii run hrun
  simp only [Bool.or_eq_true, Bool.and_eq_true, Nat.ble_eq, beq_iff_eq] at hbeyond
  omega

/-- What is in ASCII in the lower case of a character is the lower case of an ASCII character, or
one of two letters. -/
theorem ascii_of_mem_lowerLetter {c d : Char} (hd : d ∈ lowerLetter c) (hascii : d.toNat < 128) :
    c.toNat < 128 ∧ d = c.toLower ∨ d = 'i' ∨ d = 'k' := by
  unfold lowerLetter at hd
  split at hd
  · rename_i hc
    exact .inl ⟨hc, List.mem_singleton.mp hd⟩
  · split at hd
    · rcases List.mem_cons.mp hd with rfl | hd
      · exact .inr (.inl rfl)
      · rw [List.mem_singleton.mp hd] at hascii
        exact absurd hascii (by decide)
    · rename_i hc _
      rw [List.mem_singleton] at hd
      cases himage : Table.image? lowerRuns c with
      | none =>
        rw [himage, Option.map_none, Option.getD_none] at hd
        rw [hd] at hascii
        exact absurd hascii hc
      | some m =>
        rw [himage, Option.map_some, Option.getD_some] at hd
        rcases image?_beyond_ascii himage with hbeyond | hk
        · rw [hd, toNat_of_image? himage] at hascii
          omega
        · rw [hk, Char.ofNat_toNat] at hd
          exact .inr (.inr hd)

theorem lowerLetter_ne_nil (c : Char) : lowerLetter c ≠ [] := by
  unfold lowerLetter
  split
  · exact List.cons_ne_nil _ _
  · split <;> exact List.cons_ne_nil _ _

/-- A text without a capital sigma is lowered letter by letter. -/
theorem lowerAfter_eq_flatMap (seen : List Char) {s : List Char} (hs : 'Σ' ∉ s) :
    lowerAfter seen s = s.flatMap lowerLetter := by
  induction s generalizing seen with
  | nil => rfl
  | cons c rest ih =>
    have hc : c ≠ 'Σ' := fun h ↦ hs (h ▸ List.mem_cons_self)
    rw [lowerAfter, if_neg hc, ih (c :: seen) fun h ↦ hs (List.mem_cons_of_mem c h),
      List.flatMap_cons]

/-- Apart from sigmas each letter is lowered by itself. -/
theorem lower_append {s t : String} (hs : 'Σ' ∉ s.toList) (ht : 'Σ' ∉ t.toList) :
    lower (s ++ t) = lower s ++ lower t := by
  have hst : 'Σ' ∉ s.toList ++ t.toList := by
    rw [List.mem_append]
    exact not_or.mpr ⟨hs, ht⟩
  rw [lower, lower, lower, String.toList_append, lowerAfter_eq_flatMap _ hst,
    lowerAfter_eq_flatMap _ hs, lowerAfter_eq_flatMap _ ht, List.flatMap_append,
    String.ofList_append]

/-- No capital sigma is left in lower case. -/
theorem sigma_not_mem_lower (s : String) : 'Σ' ∉ (lower s).toList := by
  rw [lower, String.toList_ofList]
  exact fun h ↦ (isSettled_of_mem_lowerAfter h).ne_sigma rfl

end Barometer.Text
