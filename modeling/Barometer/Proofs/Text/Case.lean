import Barometer.Text.Case

/-!
# Texts in lower case

No image of the table of lower case letters is a member of one of its runs, so the lower case of a
text consists of characters that lower case leaves as they are, and lowering it again changes
nothing.
-/

namespace Barometer.Text

/-- Of the plain letters the capitals are moved by 32. -/
theorem toNat_toLower (c : Char) :
    c.toLower.toNat = if 65 ≤ c.toNat ∧ c.toNat ≤ 90 then c.toNat + 32 else c.toNat := by
  have hcapital : c.val ≥ 'A'.val ∧ c.val ≤ 'Z'.val ↔ 65 ≤ c.toNat ∧ c.toNat ≤ 90 := by
    rw [ge_iff_le, UInt32.le_iff_toNat_le, UInt32.le_iff_toNat_le]
    rfl
  delta Char.toLower
  split
  · rename_i h
    obtain ⟨hlow, hhigh⟩ := hcapital.mp h
    have hsum : (c.val + ('a'.val - 'A'.val)).toNat = (c.toNat + 32) % 2 ^ 32 :=
      UInt32.toNat_add _ _
    rw [if_pos ⟨hlow, hhigh⟩]
    exact hsum.trans (Nat.mod_eq_of_lt (by omega))
  · rename_i h
    rw [if_neg (mt hcapital.mpr h)]

theorem toLower_eq_self {c : Char} (h : c.toNat < 65 ∨ 90 < c.toNat) : c.toLower = c := by
  rw [← Char.toNat_inj, toNat_toLower, if_neg (by omega)]

theorem toLower_toLower (c : Char) : c.toLower.toLower = c.toLower := by
  refine toLower_eq_self ?_
  rw [toNat_toLower]
  split <;> omega

theorem ascii_toLower {c : Char} (hc : c.toNat < 128) : c.toLower.toNat < 128 := by
  rw [toNat_toLower]
  split <;> omega

theorem lowerLetter_of_ascii {c : Char} (hc : c.toNat < 128) : lowerLetter c = [c.toLower] :=
  if_pos hc

theorem lowerAfter_of_ascii (seen : List Char) {s : List Char} (hs : ∀ c ∈ s, c.toNat < 128) :
    lowerAfter seen s = s.map Char.toLower := by
  induction s generalizing seen with
  | nil => rfl
  | cons c rest ih =>
    have hc := hs c List.mem_cons_self
    have hsigma : c ≠ 'Σ' := by
      rintro rfl
      exact absurd hc (by decide)
    rw [lowerAfter, if_neg hsigma, lowerLetter_of_ascii hc,
      ih (c :: seen) fun d hd ↦ hs d (List.mem_cons_of_mem c hd)]
    rfl

/-- Ranges that lie before or behind some characters cover none of them. -/
theorem Table.covers_eq_false {table : List (Nat × Nat)} {low high : Nat}
    (h : ∀ range ∈ table, range.2 < low ∨ high < range.1) {c : Char} (hlow : low ≤ c.toNat)
    (hhigh : c.toNat ≤ high) : covers table c = false := by
  rw [covers, List.any_eq_false]
  intro range hrange
  have hapart := h range hrange
  simp only [Bool.and_eq_true, decide_eq_true_eq]
  omega

namespace Table.Run

/-- Whether no image under a run is a member of another one, as their bounds and steps tell. -/
def avoids (run other : Run) : Bool :=
  (run.image + (run.last - run.first)).blt other.first || other.last.blt run.image ||
    ((run.step == 2 || run.first == run.last) && other.step == 2 &&
      (run.image + other.first) % 2 == 1)

/-- The image of a member lies as far from the first image as the member from the first member, or
is the only image. -/
theorem at?_eq_some {run : Run} {n m : Nat} (h : run.at? n = some m) :
    run.first ≤ n ∧ n ≤ run.last ∧
      (run.step = 0 ∧ m = run.image ∨
        (n - run.first) % run.step = 0 ∧ m = run.image + (n - run.first)) := by
  unfold at? at h
  split at h
  · cases h
  · split at h
    · cases h
      exact ⟨by omega, by omega, .inl ⟨by assumption, rfl⟩⟩
    · split at h
      · cases h
        exact ⟨by omega, by omega, .inr ⟨by assumption, rfl⟩⟩
      · cases h

/-- A letter that a run leads to is in no run that it avoids. -/
theorem at?_eq_none_of_avoids {run other : Run} (h : run.avoids other = true) {n m : Nat}
    (hm : run.at? n = some m) : other.at? m = none := by
  obtain ⟨hfirst, hlast, himage⟩ := at?_eq_some hm
  simp only [avoids, Bool.or_eq_true, Bool.and_eq_true, Nat.blt_eq, beq_iff_eq] at h
  rw [at?]
  rcases h with (habove | hbelow) | ⟨⟨hsteps, hstep⟩, hodd⟩
  · exact if_pos (.inl (by omega))
  · exact if_pos (.inr (by omega))
  · -- The images and the members go in steps of two, one over even and one over odd numbers.
    have heven : (m - run.image) % 2 = 0 := by
      rcases himage with ⟨-, rfl⟩ | ⟨hmember, rfl⟩
      · omega
      · rcases hsteps with hstep | hsingle
        · rw [hstep] at hmember
          omega
        · omega
    have hlow : run.image ≤ m := by
      rcases himage with ⟨-, rfl⟩ | ⟨-, rfl⟩ <;> omega
    by_cases hout : m < other.first ∨ other.last < m
    · exact if_pos hout
    · rw [if_neg hout, hstep, if_neg (by decide), if_neg (by omega)]

end Table.Run

/-- What lower case changes and into what: the capitals of ASCII, the one with two characters for
lower case, the one that depends on its neighbours, and those of the table. -/
def capitals : List Table.Run :=
  { first := 0x41, last := 0x5A, step := 1, image := 0x61 } ::
  { first := 0x130, last := 0x130, step := 1, image := 0x69 } ::
  { first := 0x130, last := 0x130, step := 1, image := 0x307 } ::
  { first := 0x3A3, last := 0x3A3, step := 1, image := 0x3C2 } ::
  { first := 0x3A3, last := 0x3A3, step := 1, image := 0x3C3 } :: lowerRuns

theorem capitals_avoid_capitals :
    (capitals.all fun run ↦ capitals.all run.avoids) = true := by
  -- The lines of the table are spelled out first: the kernel is slow at taking texts apart.
  have hspelled (s : List Char) : (String.ofList s).toList = s := String.toList_ofList
  simp only [capitals, lowerRuns, Table.runs, Table.entries, List.flatMap_cons, List.flatMap_nil]
  repeat rw [hspelled]
  decide +kernel

/-- A character that lower case leaves as it is, whatever stands around it. -/
structure IsSettled (c : Char) : Prop where
  ne_sigma : c ≠ 'Σ'
  lowerLetter_eq : lowerLetter c = [c]

/-- A letter that is no capital of the table stays as it is. -/
theorem isSettled_of_at?_capitals {c : Char} (h : ∀ run ∈ capitals, run.at? c.toNat = none) :
    IsSettled c := by
  have hASCII := h { first := 0x41, last := 0x5A, step := 1, image := 0x61 } (by simp [capitals])
  have hdotted := h { first := 0x130, last := 0x130, step := 1, image := 0x69 } (by simp [capitals])
  have hsigma := h { first := 0x3A3, last := 0x3A3, step := 1, image := 0x3C3 } (by simp [capitals])
  have htable : Table.image? lowerRuns c = none := by
    rw [Table.image?, List.findSome?_eq_none_iff]
    exact fun run hrun ↦ h run (by simp [capitals, hrun])
  constructor
  · rintro rfl
    exact absurd hsigma (by decide)
  · rw [lowerLetter]
    by_cases hc : c.toNat < 128
    · have hsmall : ¬ (c.val ≥ 'A'.val ∧ c.val ≤ 'Z'.val) := by
        rintro ⟨hlow, hhigh⟩
        have hbounds : ¬ (c.toNat < 0x41 ∨ 0x5A < c.toNat) := by
          rw [ge_iff_le, UInt32.le_iff_toNat_le] at hlow
          rw [UInt32.le_iff_toNat_le] at hhigh
          exact not_or.mpr ⟨Nat.not_lt.mpr hlow, Nat.not_lt.mpr hhigh⟩
        simp [Table.Run.at?, hbounds, Nat.mod_one] at hASCII
      have hlower : c.toLower = c := dif_neg hsmall
      rw [if_pos hc, hlower]
    · rw [if_neg hc, if_neg, htable]
      · rfl
      · intro hc
        rw [hc] at hdotted
        exact absurd hdotted (by decide)

/-- What a run gives for a capital is no capital. -/
theorem isSettled_of_at? {run : Table.Run} (hrun : run ∈ capitals) {n m : Nat}
    (hm : run.at? n = some m) : IsSettled (Char.ofNat m) := by
  by_cases hvalid : m.isValidChar
  · refine isSettled_of_at?_capitals fun other hother ↦ ?_
    have havoids := List.all_eq_true.mp (List.all_eq_true.mp capitals_avoid_capitals run hrun)
    have hcode : (Char.ofNat m).toNat = m := by
      rw [Char.ofNat, dif_pos hvalid]
      rfl
    rw [hcode]
    exact Table.Run.at?_eq_none_of_avoids (havoids other hother) hm
  · rw [Char.ofNat, dif_neg hvalid]
    exact ⟨by decide, by decide⟩

/-- The same for a run of one capital. -/
theorem isSettled_of_mem_capitals {n m : Nat}
    (h : { first := n, last := n, step := 1, image := m } ∈ capitals) :
    IsSettled (Char.ofNat m) := by
  have himage : ({ first := n, last := n, step := 1, image := m } : Table.Run).at? n = some m := by
    simp [Table.Run.at?]
  exact isSettled_of_at? h himage

/-- Lowering leads to letters that stay as they are. -/
theorem isSettled_of_mem_lowerLetter {c d : Char} (hc : c ≠ 'Σ') (hd : d ∈ lowerLetter c) :
    IsSettled d := by
  unfold lowerLetter at hd
  split at hd
  · rename_i hcode
    have hlower := ascii_toLower hcode
    rw [List.mem_singleton.mp hd]
    refine ⟨fun hsigma ↦ ?_, ?_⟩
    · rw [hsigma] at hlower
      exact absurd hlower (by decide)
    · rw [lowerLetter_of_ascii hlower, toLower_toLower]
  · split at hd
    · rcases List.mem_cons.mp hd with rfl | hd
      · exact isSettled_of_mem_capitals (n := 0x130) (m := 0x69) (by simp [capitals])
      · rw [List.mem_singleton.mp hd]
        exact isSettled_of_mem_capitals (n := 0x130) (by simp [capitals])
    · rename_i hcode hdotted
      rw [List.mem_singleton] at hd
      cases himage : Table.image? lowerRuns c with
      | none =>
        rw [himage, Option.map_none, Option.getD_none] at hd
        rw [hd]
        refine ⟨hc, ?_⟩
        rw [lowerLetter, if_neg hcode, if_neg hdotted, himage]
        rfl
      | some m =>
        rw [himage] at hd
        obtain ⟨run, hrun, hm⟩ := List.exists_of_findSome?_eq_some himage
        rw [hd]
        exact isSettled_of_at? (by simp [capitals, hrun]) hm

/-- Both forms of the small sigma stay as they are, too. -/
theorem isSettled_of_mem_lowerAfter {seen s : List Char} {d : Char} (hd : d ∈ lowerAfter seen s) :
    IsSettled d := by
  induction s generalizing seen with
  | nil => cases hd
  | cons c rest ih =>
    rw [lowerAfter, List.mem_append] at hd
    rcases hd with hd | hd
    · split at hd
      · rw [List.mem_singleton.mp hd]
        split
        · exact isSettled_of_mem_capitals (n := 0x3A3) (m := 0x3C2) (by simp [capitals])
        · exact isSettled_of_mem_capitals (n := 0x3A3) (m := 0x3C3) (by simp [capitals])
      · exact isSettled_of_mem_lowerLetter (by assumption) hd
    · exact ih hd

theorem lowerAfter_of_isSettled (seen : List Char) {s : List Char} (hs : ∀ c ∈ s, IsSettled c) :
    lowerAfter seen s = s := by
  induction s generalizing seen with
  | nil => rfl
  | cons c rest ih =>
    have hc := hs c List.mem_cons_self
    rw [lowerAfter, if_neg hc.ne_sigma, hc.lowerLetter_eq,
      ih (c :: seen) fun d hd ↦ hs d (List.mem_cons_of_mem c hd)]
    rfl

/-- Lowered texts are in lower case. -/
theorem lower_lower (s : String) : lower (lower s) = lower s := by
  rw [lower, lower, String.toList_ofList,
    lowerAfter_of_isSettled [] fun c hc ↦ isSettled_of_mem_lowerAfter hc]

end Barometer.Text
