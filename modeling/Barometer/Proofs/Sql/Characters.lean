import Barometer.Compilation
import Barometer.Proofs.Decimal.Digits
import Mathlib.Data.List.Chain

/-!
# Characters outside of quotes

What a token is written with when it needs no quotes: no character that ends a statement, groups
or quotes a part of it, and no two characters that begin a comment together.
-/

namespace Barometer.Sql

/-- Whether two characters, one after the other, begin a comment. -/
def opensComment (a b : Char) : Bool :=
  a == '-' && b == '-' || a == '/' && b == '*'

/-- The characters with a meaning of their own in a statement, whatever stands around them. -/
def structural : List Char := ['\x27', '"', ';', '(', ')']

/-- A text that means nothing to a scanner. -/
structure Quiet (s : List Char) : Prop where
  noComment : s.IsChain fun a b ↦ opensComment a b = false
  notStructural : ∀ c ∈ s, c ∉ structural

/-- The characters of names and of numbers without a sign. -/
def isWord (c : Char) : Bool := isNameCharacter c || c == '.'

theorem opensComment_left {a : Char} {others : List Char}
    (h : a ∉ '-' :: '*' :: '/' :: others) (b : Char) : opensComment a b = false := by
  have hminus : a ≠ '-' := fun ha ↦ h (by simp [ha])
  have hslash : a ≠ '/' := fun ha ↦ h (by simp [ha])
  simp [opensComment, hminus, hslash]

theorem opensComment_right {b : Char} {others : List Char}
    (h : b ∉ '-' :: '*' :: '/' :: others) (a : Char) : opensComment a b = false := by
  have hminus : b ≠ '-' := fun hb ↦ h (by simp [hb])
  have hstar : b ≠ '*' := fun hb ↦ h (by simp [hb])
  simp [opensComment, hminus, hstar]

theorem not_mem_of_isWord {c : Char} (h : isWord c = true) :
    c ∉ '-' :: '*' :: '/' :: structural := by
  have hnone : ('-' :: '*' :: '/' :: structural).all (fun c ↦ !isWord c) = true := by decide
  intro hc
  have hword := List.all_eq_true.mp hnone c hc
  rw [h] at hword
  cases hword

theorem isWord_of_isDigit {c : Char} (h : c.isDigit = true) : isWord c = true := by
  simp [isWord, isNameCharacter, Char.isAlphanum, h]

namespace Quiet

instance (s : List Char) : Decidable (Quiet s) :=
  decidable_of_iff ((s.IsChain fun a b ↦ opensComment a b = false) ∧
      (s.all fun c ↦ decide (c ∉ structural)) = true)
    ⟨fun h ↦ ⟨h.1, fun c hc ↦ of_decide_eq_true (List.all_eq_true.mp h.2 c hc)⟩,
      fun h ↦ ⟨h.1, List.all_eq_true.mpr fun c hc ↦ decide_eq_true (h.2 c hc)⟩⟩

theorem nil : Quiet [] where
  noComment := .nil
  notStructural := by simp

theorem cons {c : Char} {s : List Char} (hc : isWord c = true) (hs : Quiet s) :
    Quiet (c :: s) where
  noComment := by
    rw [List.isChain_cons]
    exact ⟨fun b _ ↦ opensComment_left (not_mem_of_isWord hc) b, hs.noComment⟩
  notStructural := by
    intro d hd
    rcases List.mem_cons.mp hd with rfl | hd
    · intro hmem
      exact not_mem_of_isWord hc (by simp [hmem])
    · exact hs.notStructural d hd

theorem append {s t : List Char} (hs : ∀ c ∈ s, isWord c = true) (ht : Quiet t) :
    Quiet (s ++ t) := by
  induction s with
  | nil => exact ht
  | cons c s ih =>
    exact cons (hs c List.mem_cons_self) (ih fun d hd ↦ hs d (List.mem_cons_of_mem c hd))

theorem of_forall {s : List Char} (hs : ∀ c ∈ s, isWord c = true) : Quiet s := by
  have h := append hs nil
  rwa [List.append_nil] at h

/-- A minus sign may stand before a number. -/
theorem minus {s : List Char} (hs : Quiet s) (hhead : ∀ c ∈ s.head?, isWord c = true) :
    Quiet ('-' :: s) where
  noComment := by
    rw [List.isChain_cons]
    exact ⟨fun b hb ↦ opensComment_right (not_mem_of_isWord (hhead b hb)) '-', hs.noComment⟩
  notStructural := by
    intro d hd
    rcases List.mem_cons.mp hd with rfl | hd
    · decide
    · exact hs.notStructural d hd

end Quiet

theorem isWord_of_isSimpleName {s : List Char} (h : isSimpleName s = true) {c : Char}
    (hc : c ∈ s) : isWord c = true := by
  cases s with
  | nil => cases hc
  | cons first rest =>
    rw [isSimpleName, Bool.and_eq_true, List.all_eq_true] at h
    rcases List.mem_cons.mp hc with rfl | hc
    · have hstart : c.isAlpha = true ∨ c = '_' := by simpa [isNameStart] using h.1
      rcases hstart with hstart | rfl
      · simp [isWord, isNameCharacter, Char.isAlphanum, hstart]
      · rfl
    · simp [isWord, h.2 c hc]

/-- Points stand between simple names, not in them. -/
theorem point_not_mem_of_isSimpleName {s : List Char} (h : isSimpleName s = true) : '.' ∉ s := by
  cases s with
  | nil => cases h
  | cons c rest =>
    rw [isSimpleName, Bool.and_eq_true, List.all_eq_true] at h
    intro hmem
    rcases List.mem_cons.mp hmem with rfl | hmem
    · exact absurd h.1 (by decide)
    · exact absurd (h.2 '.' hmem) (by decide)

/-- What is written without quotes where a name stands: one name, two names with a point between
them, the number one and the star. -/
theorem isPlain_iff (name : String) :
    isPlain name = true ↔ isSimpleName name.toList = true ∨ name = "1" ∨ name = "*" ∨
      ∃ table column, isSimpleName table = true ∧ isSimpleName column = true ∧
        name.toList = table ++ '.' :: column := by
  have hahead {s : List Char} (hs : isSimpleName s = true) (c : Char) (hc : c ∈ s) :
      (c != '.') = true := by
    rw [bne_iff_ne]
    rintro rfl
    exact point_not_mem_of_isSimpleName hs hc
  have htake {s : List Char} (hs : isSimpleName s = true) (rest : List Char) :
      (s ++ rest).takeWhile (· != '.') = s ++ rest.takeWhile (· != '.') :=
    List.takeWhile_append_of_pos (hahead hs)
  have hdrop {s : List Char} (hs : isSimpleName s = true) (rest : List Char) :
      (s ++ rest).dropWhile (· != '.') = rest.dropWhile (· != '.') :=
    List.dropWhile_append_of_pos (hahead hs)
  constructor
  · intro h
    have hsplit := List.takeWhile_append_dropWhile (p := (· != '.')) (l := name.toList)
    unfold isPlain at h
    simp only at h
    split at h
    · rename_i htail
      rw [htail, List.append_nil] at hsplit
      rw [hsplit, Bool.or_eq_true, Bool.or_eq_true, beq_iff_eq, beq_iff_eq] at h
      rcases h with (h | h) | h
      · exact .inl h
      · exact .inr (.inl (String.toList_injective h))
      · exact .inr (.inr (.inl (String.toList_injective h)))
    · rename_i point rest htail
      rw [Bool.and_eq_true] at h
      have hpoint : point = '.' := by
        have hhead := List.head?_dropWhile_not (· != '.') name.toList
        rw [htail] at hhead
        simpa using hhead
      rw [htail, hpoint] at hsplit
      exact .inr (.inr (.inr ⟨_, _, h.1, h.2, hsplit.symm⟩))
  · rintro (h | rfl | rfl | ⟨table, column, htable, hcolumn, hname⟩)
    · have hhead := htake h []
      have htail := hdrop h []
      rw [List.append_nil, List.takeWhile_nil, List.append_nil] at hhead
      rw [List.append_nil, List.dropWhile_nil] at htail
      simp [isPlain, hhead, htail, h]
    · decide
    · decide
    · simp [isPlain, hname, htake htable, hdrop htable, htable, hcolumn]

/-- A name without quotes is the star, or made of the characters of names. -/
theorem eq_star_or_isWord_of_isPlain {name : String} (h : isPlain name = true) :
    name.toList = ['*'] ∨ ∀ c ∈ name.toList, isWord c = true := by
  rcases (isPlain_iff name).mp h with h | rfl | rfl | ⟨table, column, htable, hcolumn, hname⟩
  · exact .inr fun c hc ↦ isWord_of_isSimpleName h hc
  · exact .inr (List.all_eq_true.mp (by decide))
  · exact .inl rfl
  · refine .inr fun c hc ↦ ?_
    rw [hname] at hc
    rcases List.mem_append.mp hc with hc | hc
    · exact isWord_of_isSimpleName htable hc
    · rcases List.mem_cons.mp hc with rfl | hc
      · rfl
      · exact isWord_of_isSimpleName hcolumn hc

/-- A plain name opens no comment and no region. -/
theorem quiet_of_isPlain {name : String} (h : isPlain name = true) : Quiet name.toList := by
  rcases eq_star_or_isWord_of_isPlain h with hstar | hword
  · rw [hstar]
    decide
  · exact .of_forall hword

theorem quiet_int (n : Int) : Quiet (toString n).toList := by
  have hdigits (m : Nat) : ∀ c ∈ m.repr.toList, isWord c = true := by
    intro c hc
    rw [Nat.toList_repr] at hc
    exact isWord_of_isDigit (Nat.isDigit_of_mem_toDigits (by decide) (by decide) hc)
  rw [Int.toString_eq_repr, Int.repr_eq_if]
  split
  · exact .of_forall (hdigits _)
  · rw [String.toList_append]
    exact (Quiet.of_forall (hdigits _)).minus fun c hc ↦ hdigits _ c (List.mem_of_head? hc)

open Decimal in
/-- Before an exponent there is no minus but the sign of the number. -/
theorem quiet_text (d : Digits) (hd : ∀ c ∈ d.digits, c.isDigit = true) :
    Quiet (Layout.sql.text d) ∧ ∀ c ∈ (Layout.sql.text d).head?, isWord c = true := by
  have hword {c : Char} (hc : c.isDigit = true ∨ c = '.') : isWord c = true := by
    rcases hc with hc | rfl
    · exact isWord_of_isDigit hc
    · rfl
  unfold Layout.text
  split
  · have hall : ∀ c ∈ Layout.sql.positionalText d, isWord c = true :=
      fun c hc ↦ hword (Layout.mem_positionalText hd hc)
    exact ⟨.of_forall hall, fun c hc ↦ hall c (List.mem_of_head? hc)⟩
  · have hmantissa : ∀ c ∈ Layout.sql.mantissaText d, isWord c = true :=
      fun c hc ↦ hword (Layout.mem_mantissaText hd hc)
    have hexponent : ∀ c ∈ Layout.sql.exponentDigits d.exponent, isWord c = true :=
      fun c hc ↦ isWord_of_isDigit (Layout.isDigit_of_mem_exponentDigits hc)
    have hquiet : Quiet (Layout.sql.exponentText d.exponent) := by
      rw [Layout.exponentText_eq, Layout.exponentSign]
      split
      · exact .cons rfl ((Quiet.of_forall hexponent).minus fun c hc ↦
          hexponent c (List.mem_of_head? hc))
      · exact .cons rfl (.of_forall hexponent)
    refine ⟨.append hmantissa hquiet, fun c hc ↦ ?_⟩
    change c ∈ (Layout.sql.mantissaText d ++ Layout.sql.exponentText d.exponent).head? at hc
    rw [List.head?_append, Option.mem_def, Option.or_eq_some_iff] at hc
    rcases hc with hc | ⟨-, hc⟩
    · exact hmantissa c (List.mem_of_head? hc)
    · cases hc
      rfl

open Decimal in
/-- Neither does a number, whether it is written with an exponent or not. -/
theorem quiet_real (x : Float) : Quiet ((format? .sql x).getD "NULL").toList := by
  unfold format?
  rcases Binary.ofFloat? x with _ | b
  · change Quiet "NULL".toList
    decide
  · obtain ⟨hquiet, hhead⟩ := quiet_text (shortest b) fun c hc ↦ isDigit_of_mem_shortest hc
    simp only [Option.map_some, Option.getD_some, Layout.signed, String.toList_ofList]
    split
    · exact hquiet.minus hhead
    · exact hquiet

end Barometer.Sql
