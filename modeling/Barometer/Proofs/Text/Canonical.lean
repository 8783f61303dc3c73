import Barometer.Proofs.Text.Case
import Barometer.Text.Canonical

/-!
# Canonical forms

A canonical form is in lower case, whatever the compatibility form of its text is. ASCII characters
have no other compatibility form, so of a text of plain characters only its capitals and its spaces
may change. A text of digits, small letters and signs, as numbers and truth values are written with,
is its own canonical form.
-/

namespace Barometer.Text

theorem blankRanges_eq : blankRanges =
    [(0x9, 0xD), (0x20, 0x20), (0x85, 0x85), (0xA0, 0xA0), (0x1680, 0x1680), (0x2000, 0x200A),
      (0x2028, 0x2029), (0x202F, 0x202F), (0x205F, 0x205F), (0x3000, 0x3000)] := by
  rw [blankRanges, Table.ranges, Table.entries, List.flatMap_singleton, String.toList_ofList]
  decide

theorem isBlank_eq_false_of_letter {c : Char} (hlow : 65 ≤ c.toNat) (hhigh : c.toNat ≤ 122) :
    isBlank c = false := by
  have hletters : ∀ range ∈ blankRanges, range.2 < 65 ∨ 122 < range.1 := by
    rw [blankRanges_eq]
    decide
  exact Table.covers_eq_false hletters hlow hhigh

namespace Compatibility

theorem parts_of_ascii {c : Char} (hc : c.toNat < 128) : parts c = [c] := by
  rw [parts, if_pos (by omega)]

/-- The plain letters have no parts. -/
theorem flatMap_parts_of_ascii {s : List Char} (hs : ∀ c ∈ s, c.toNat < 128) :
    s.flatMap parts = s := by
  induction s with
  | nil => rfl
  | cons c s ih =>
    rw [List.flatMap_cons, parts_of_ascii (hs c List.mem_cons_self),
      ih fun d hd ↦ hs d (List.mem_cons_of_mem c hd)]
    rfl

theorem combiningClass_of_ascii {c : Char} (hc : c.toNat < 128) : combiningClass c = 0 := by
  rw [combiningClass, if_pos (by omega)]

theorem composeHangul?_of_ascii (a : Char) {b : Char} (hb : b.toNat < 128) :
    composeHangul? a b = none := by
  have hvowel : ¬ vowelBase ≤ b.toNat := by
    rw [vowelBase]
    omega
  have htail : ¬ tailBase < b.toNat := by
    rw [tailBase]
    omega
  simp [composeHangul?, hvowel, htail]

/-- Only marks and jamo are the second parts of composites. -/
theorem compose?_of_ascii (a : Char) {b : Char} (hb : b.toNat < 128) : compose? a b = none := by
  have hkeys : ∀ page ∈ compositionPages, 128 ≤ page.1 := by decide
  have hpage : compositionPages.lookup b.toNat = none := by
    rw [List.lookup_eq_none_iff]
    intro page hpage
    have hkey := hkeys page hpage
    rw [bne_iff_ne]
    omega
  rw [compose?, composeHangul?_of_ascii a hb, hpage]

/-- There are no marks to be ordered among the plain letters. -/
theorem order_of_ascii {s : List Char} (hs : ∀ c ∈ s, c.toNat < 128) : order s = s := by
  induction s with
  | nil => rfl
  | cons c s ih =>
    rw [order, if_pos (combiningClass_of_ascii (hs c List.mem_cons_self)),
      ih fun d hd ↦ hs d (List.mem_cons_of_mem c hd)]

/-- Nor is there anything to be composed. -/
theorem composeFrom_of_ascii (starter : Char) {s : List Char} (hs : ∀ c ∈ s, c.toNat < 128) :
    composeFrom starter [] s = starter :: s := by
  induction s generalizing starter with
  | nil => rfl
  | cons c s ih =>
    have hc := hs c List.mem_cons_self
    simp only [composeFrom, compose?_of_ascii starter hc, combiningClass_of_ascii hc, if_true,
      ih c fun d hd ↦ hs d (List.mem_cons_of_mem c hd)]
    rfl

/-- So a text of plain letters is its own compatibility form. -/
theorem normalForm_of_ascii {s : List Char} (hs : ∀ c ∈ s, c.toNat < 128) : normalForm s = s := by
  rw [normalForm, flatMap_parts_of_ascii hs, order_of_ascii hs]
  cases s with
  | nil => rfl
  | cons c s =>
    rw [composeAll, if_pos (combiningClass_of_ascii (hs c List.mem_cons_self)),
      composeFrom_of_ascii c fun d hd ↦ hs d (List.mem_cons_of_mem c hd)]

end Compatibility

/-- Without a place to split at a text is one part. -/
theorem splitWhen_of_forall {p : Char → Bool} {s : List Char} (hs : ∀ c ∈ s, p c = false) :
    splitWhen p s = [s] := by
  induction s with
  | nil => rfl
  | cons c s ih =>
    rw [splitWhen, ih fun d hd ↦ hs d (List.mem_cons_of_mem c hd)]
    simp [hs c List.mem_cons_self]

theorem splitWhen_congr {p q : Char → Bool} {s : List Char} (h : ∀ c ∈ s, p c = q c) :
    splitWhen p s = splitWhen q s := by
  induction s with
  | nil => rfl
  | cons c s ih =>
    rw [splitWhen, splitWhen, ih fun d hd ↦ h d (List.mem_cons_of_mem c hd),
      h c List.mem_cons_self]

/-- The parts have no signs but those of the text. -/
theorem mem_of_mem_splitWhen {p : Char → Bool} {s part : List Char} (hpart : part ∈ splitWhen p s)
    {c : Char} (hc : c ∈ part) : c ∈ s := by
  induction s generalizing part with
  | nil =>
    rw [List.mem_singleton.mp hpart] at hc
    cases hc
  | cons d rest ih =>
    rw [splitWhen] at hpart
    split at hpart
    · rw [List.mem_singleton.mp hpart] at hc
      exact List.mem_cons.mpr (.inl (List.mem_singleton.mp hc))
    · rename_i first others hsplit
      have hother {other : List Char} (h : other ∈ first :: others) (hc : c ∈ other) : c ∈ rest :=
        ih (hsplit ▸ h) hc
      split at hpart
      · rcases List.mem_cons.mp hpart with rfl | hpart
        · cases hc
        · exact List.mem_cons_of_mem d (hother hpart hc)
      · rcases List.mem_cons.mp hpart with rfl | hpart
        · rcases List.mem_cons.mp hc with rfl | hc
          · exact List.mem_cons_self
          · exact List.mem_cons_of_mem d (hother List.mem_cons_self hc)
        · exact List.mem_cons_of_mem d (hother (List.mem_cons_of_mem first hpart) hc)

namespace Canonical

@[simp] theorem joined_singleton (word : List Char) : joined [word] = word := by
  simp [joined]

theorem joined_cons_cons (word next : List Char) (rest : List (List Char)) :
    joined (word :: next :: rest) = word ++ ' ' :: joined (next :: rest) := by
  rw [joined, List.intercalate_cons_cons, List.append_assoc]
  rfl

/-- Joining adds blanks and no other signs. -/
theorem mem_of_mem_joined {ws : List (List Char)} {c : Char} (hc : c ∈ joined ws) :
    c = ' ' ∨ ∃ word ∈ ws, c ∈ word := by
  induction ws with
  | nil => cases hc
  | cons word rest ih =>
    rcases rest with _ | ⟨next, others⟩
    · exact .inr ⟨word, List.mem_cons_self, by simpa using hc⟩
    · rw [joined_cons_cons, List.mem_append, List.mem_cons] at hc
      rcases hc with hc | hc | hc
      · exact .inr ⟨word, List.mem_cons_self, hc⟩
      · exact .inl hc
      · rcases ih hc with hspace | ⟨other, hother, hc⟩
        · exact .inl hspace
        · exact .inr ⟨other, List.mem_cons_of_mem word hother, hc⟩

/-- A canonical form consists of the words of the folded text. -/
theorem toList_of_text?_eq_some {s form : String} (h : text? s = some form) :
    form.toList = joined (words (folded s.toList)) := by
  unfold text? at h
  generalize joined (words (folded s.toList)) = chars at h ⊢
  rcases chars with _ | ⟨first, rest⟩
  · cases h
  · rw [← Option.some.inj h, String.toList_ofList]

/-- Words are joined by spaces, and everything else comes out of lower case. -/
theorem isSettled_of_text?_eq_some {s form : String} (h : text? s = some form) :
    ∀ c ∈ form.toList, IsSettled c := by
  intro c hc
  rw [toList_of_text?_eq_some h] at hc
  rcases mem_of_mem_joined hc with rfl | ⟨word, hword, hc⟩
  · exact ⟨by decide, by decide⟩
  · have hpart := (List.mem_filter.mp hword).1
    exact isSettled_of_mem_lowerAfter (mem_of_mem_splitWhen hpart hc)

/-- A canonical form is its own lower case. -/
theorem lower_of_text?_eq_some {s form : String} (h : text? s = some form) : lower form = form := by
  rw [lower, lowerAfter_of_isSettled [] (isSettled_of_text?_eq_some h), String.ofList_toList]

/-- Whether a character of ASCII is shown and is no quote. -/
def isPlain (c : Char) : Bool :=
  decide (32 ≤ c.toNat ∧ c.toNat < 127 ∧ c.toNat ≠ 34 ∧ c.toNat ≠ 39)

theorem isPlain_iff {c : Char} :
    isPlain c = true ↔ 32 ≤ c.toNat ∧ c.toNat < 127 ∧ c.toNat ≠ 34 ∧ c.toNat ≠ 39 :=
  decide_eq_true_iff

theorem isInvisible_of_isPlain {c : Char} (hc : isPlain c = true) : isInvisible c = false := by
  obtain ⟨hlow, hhigh, -⟩ := isPlain_iff.mp hc
  have hranges : ∀ range ∈ invisibleRanges, range.2 < 32 ∨ 126 < range.1 := by decide
  rw [isInvisible, isControl, Table.covers_eq_false hranges hlow (by omega)]
  simp
  omega

theorem soften_of_isPlain {c : Char} (hc : isPlain c = true) : soften c = c := by
  obtain ⟨hlow, -, hquotes⟩ := isPlain_iff.mp hc
  refine if_neg ?_
  rintro (rfl | rfl | rfl | rfl | rfl)
  · exact absurd hlow (by decide)
  · exact absurd hlow (by decide)
  · exact absurd hlow (by decide)
  · exact hquotes.2 rfl
  · exact hquotes.1 rfl

/-- Among plain characters the space is the only blank. -/
theorem isBlank_of_isPlain {c : Char} (hc : isPlain c = true) : isBlank c = (c == ' ') := by
  obtain ⟨hlow, hhigh, -⟩ := isPlain_iff.mp hc
  have hspace : c = ' ' ↔ c.toNat = 32 := Char.toNat_inj.symm
  rw [Bool.eq_iff_iff, beq_iff_eq, hspace, isBlank, Table.covers, blankRanges_eq]
  simp
  omega

theorem isPlain_toLower {c : Char} (hc : isPlain c = true) : isPlain c.toLower = true := by
  rw [isPlain_iff] at hc ⊢
  rw [toNat_toLower]
  split <;> omega

/-- A plain text is folded by lowering its letters. -/
theorem folded_of_isPlain {s : List Char} (hs : ∀ c ∈ s, isPlain c = true) :
    folded s = s.map Char.toLower := by
  have hascii (c : Char) (hc : c ∈ s) : c.toNat < 128 := by
    have hbounds := isPlain_iff.mp (hs c hc)
    omega
  have hsoft : s.map soften = s := by
    rw [List.map_congr_left fun c hc ↦ soften_of_isPlain (hs c hc), List.map_id']
  have hvisible : (s.filter fun c ↦ !isInvisible c) = s := by
    rw [List.filter_eq_self]
    intro c hc
    rw [isInvisible_of_isPlain (hs c hc)]
    rfl
  rw [folded, Compatibility.normalForm_of_ascii hascii, hsoft, hvisible,
    lowerAfter_of_ascii [] hascii]

/-- The words of a plain text stand between spaces. -/
theorem words_of_isPlain {s : List Char} (hs : ∀ c ∈ s, isPlain c = true) :
    words s = (splitWhen (· == ' ') s).filter fun word ↦ !word.isEmpty := by
  rw [words, splitWhen_congr fun c hc ↦ isBlank_of_isPlain (hs c hc)]

/-- A plain text is in canonical form when its words are one space apart and in lower case. -/
theorem text?_of_isPlain {s form : String} (hs : s.toList.all isPlain = true)
    (hform : joined ((splitWhen (· == ' ') (s.toList.map Char.toLower)).filter fun word ↦
      !word.isEmpty) = form.toList) (hne : form ≠ "") : text? s = some form := by
  rw [List.all_eq_true] at hs
  have hlower : ∀ c ∈ s.toList.map Char.toLower, isPlain c = true := by
    intro c hc
    obtain ⟨d, hd, rfl⟩ := List.mem_map.mp hc
    exact isPlain_toLower (hs d hd)
  rw [text?, folded_of_isPlain hs, words_of_isPlain hlower, hform]
  split
  · rename_i hnil
    exact absurd (String.toList_eq_nil_iff.mp hnil) hne
  · rw [String.ofList_toList]

/-- The characters of numbers and of the words for truth. -/
def unchanged : List Char := "+-.0123456789abcdefghijklmnopqrstuvwxyz".toList

theorem unchanged_eq : unchanged =
    ['+', '-', '.', '0', '1', '2', '3', '4', '5', '6', '7', '8', '9', 'a', 'b', 'c', 'd', 'e', 'f',
      'g', 'h', 'i', 'j', 'k', 'l', 'm', 'n', 'o', 'p', 'q', 'r', 's', 't', 'u', 'v', 'w', 'x', 'y',
      'z'] :=
  String.toList_ofList

theorem mem_unchanged_of_isDigit {c : Char} (hc : c.isDigit = true) : c ∈ unchanged := by
  have hdigits : ∀ n ∈ List.range 10, Char.ofNat (48 + n) ∈ unchanged := by
    rw [unchanged_eq]
    decide
  have hbounds : 48 ≤ c.toNat ∧ c.toNat ≤ 57 := Char.isDigit_iff_toNat.mp hc
  have hdigit := hdigits (c.toNat - 48) (by rw [List.mem_range]; omega)
  rwa [Nat.add_sub_cancel' hbounds.1, Char.ofNat_toNat] at hdigit

/-- The signs that stay as they are come from two ranges. -/
theorem bounds_of_mem_unchanged {c : Char} (hc : c ∈ unchanged) :
    43 ≤ c.toNat ∧ c.toNat ≤ 57 ∨ 97 ≤ c.toNat ∧ c.toNat ≤ 122 := by
  have hall : (unchanged.all fun c ↦
      decide (43 ≤ c.toNat ∧ c.toNat ≤ 57 ∨ 97 ≤ c.toNat ∧ c.toNat ≤ 122)) = true := by
    rw [unchanged_eq]
    decide
  exact of_decide_eq_true (List.all_eq_true.mp hall c hc)

theorem isPlain_of_mem_unchanged {c : Char} (hc : c ∈ unchanged) : isPlain c = true := by
  have hbounds := bounds_of_mem_unchanged hc
  rw [isPlain_iff]
  omega

theorem toLower_of_mem_unchanged {c : Char} (hc : c ∈ unchanged) : c.toLower = c := by
  have hbounds := bounds_of_mem_unchanged hc
  exact toLower_eq_self (by omega)

theorem isBlank_of_mem_unchanged {c : Char} (hc : c ∈ unchanged) : isBlank c = false := by
  rw [isBlank_of_isPlain (isPlain_of_mem_unchanged hc), beq_eq_false_iff_ne]
  rintro rfl
  exact absurd (bounds_of_mem_unchanged hc) (by decide)

/-- A text of such signs is its own canonical form. -/
theorem text?_of_unchanged {s : String} (hs : ∀ c ∈ s.toList, c ∈ unchanged) (hne : s ≠ "") :
    text? s = some s := by
  have hplain : s.toList.all isPlain = true :=
    List.all_eq_true.mpr fun c hc ↦ isPlain_of_mem_unchanged (hs c hc)
  have hlower : s.toList.map Char.toLower = s.toList := by
    rw [List.map_congr_left fun c hc ↦ toLower_of_mem_unchanged (hs c hc), List.map_id']
  have hword : splitWhen (· == ' ') s.toList = [s.toList] :=
    splitWhen_of_forall fun c hc ↦ by
      rw [← isBlank_of_isPlain (isPlain_of_mem_unchanged (hs c hc)),
        isBlank_of_mem_unchanged (hs c hc)]
  have hkept : (!s.toList.isEmpty) = true := by
    simpa using hne
  refine text?_of_isPlain hplain ?_ hne
  rw [hlower, hword, List.filter_cons, if_pos hkept, List.filter_nil, joined_singleton]

end Canonical

end Barometer.Text
