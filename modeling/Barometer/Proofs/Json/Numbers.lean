import Barometer.Json.Parser
import Barometer.Json.Printer
import Barometer.Proofs.Decimal.Digits
import Mathlib.Algebra.Group.Int.Defs
import Mathlib.Algebra.Group.Nat.Defs
import Mathlib.Data.List.Basic

/-!
# Reading numbers

A number ends where no digit, point or exponent follows, so it is read in the middle of a text as it
is read alone. Integers of at most 64 bits are read back as they are written.
-/

namespace Barometer.Json

/-- Whether a number ends before a text. -/
def Ends (rest : List Char) : Prop :=
  ∀ c ∈ rest.head?, c.isDigit = false ∧ c ≠ '.' ∧ c ≠ 'e' ∧ c ≠ 'E'

theorem ends_cons {c : Char} (h : c.isDigit = false ∧ c ≠ '.' ∧ c ≠ 'e' ∧ c ≠ 'E')
    (rest : List Char) : Ends (c :: rest) := by
  intro d hd
  cases hd
  exact h

namespace Parser

section Append

variable {rest : List Char}

theorem dropWhile_isDigit_of_ends (h : Ends rest) : rest.dropWhile Char.isDigit = rest := by
  cases rest with
  | nil => rfl
  | cons c rest =>
    rw [List.dropWhile_cons_of_neg]
    rw [(h c rfl).1]
    exact Bool.false_ne_true

/-- Digits before the end of a number are dropped as they are alone. -/
theorem dropWhile_isDigit_append (h : Ends rest) (s : List Char) :
    (s ++ rest).dropWhile Char.isDigit = s.dropWhile Char.isDigit ++ rest := by
  rw [List.dropWhile_append]
  split
  · rename_i hempty
    rw [List.isEmpty_iff.mp hempty, dropWhile_isDigit_of_ends h, List.nil_append]
  · rfl

/-- Where a numeral ends the digits that are read end, too. -/
theorem significand_append (h : Ends rest) (n : Nat) (s : List Char) :
    significand n (s ++ rest) = ((significand n s).1, (significand n s).2 ++ rest) := by
  induction s generalizing n with
  | nil =>
    cases rest with
    | nil => rfl
    | cons c rest =>
      change significand n (c :: rest) = (n, c :: rest)
      rw [significand, if_neg]
      rw [(h c rfl).1]
      exact fun hdigit ↦ Bool.false_ne_true hdigit.1
  | cons c s ih =>
    rw [List.cons_append, significand, significand]
    split
    · exact ih _
    · rfl

variable {negative : Bool} {n : Nat} {v : Json}

/-- A real number whose text is over can be read before any text. -/
theorem real_append {exponent : Int} {s : List Char}
    (h : real negative n exponent s = .ok (v, [])) :
    s = [] ∧ ∀ rest, real negative n exponent rest = .ok (v, rest) := by
  unfold real at h ⊢
  split at h
  · cases h
    exact ⟨rfl, fun rest ↦ rfl⟩
  · cases h

/-- An exponent is read in the same way in front of anything that ends a numeral. -/
theorem exponentDigits_append (hrest : Ends rest) {before : Int} {up : Bool} {e : Nat}
    {s : List Char} (h : exponentDigits negative n before up e s = .ok (v, [])) :
    exponentDigits negative n before up e (s ++ rest) = .ok (v, rest) := by
  induction s generalizing e with
  | nil =>
    have hreal := (real_append h).2
    cases rest with
    | nil => exact hreal []
    | cons c rest =>
      rw [List.nil_append, exponentDigits, if_neg]
      · exact hreal _
      · rw [(hrest c rfl).1]
        exact Bool.false_ne_true
  | cons c s ih =>
    rw [List.cons_append, exponentDigits]
    rw [exponentDigits] at h
    split at h
    · rename_i hdigit
      rw [if_pos hdigit]
      split at h
      · rename_i hfits
        rw [if_pos hfits]
        exact ih h
      · rename_i hlong
        rw [if_neg hlong]
        split at h
        · cases h
        · rename_i hzero
          rw [if_neg hzero, dropWhile_isDigit_append hrest]
          rw [Except.ok.injEq, Prod.mk.injEq] at h
          rw [h.1, h.2, List.nil_append]
    · cases (real_append h).1

/-- A sign is looked for at the beginning only. -/
theorem withoutSign_append {s : List Char} (h : s ≠ []) (rest : List Char) :
    Decimal.withoutSign (s ++ rest) = Decimal.withoutSign s ++ rest := by
  obtain ⟨c, s, rfl⟩ := List.exists_cons_of_ne_nil h
  unfold Decimal.withoutSign
  rw [List.cons_append]
  split
  · rename_i hsign
    cases hsign
    rfl
  · rename_i hsign
    cases hsign
    rfl
  · rename_i hplus hminus
    split
    · rename_i hsign
      cases hsign
      exact absurd rfl (hplus _)
    · rename_i hsign
      cases hsign
      exact absurd rfl (hminus _)
    · rfl

theorem exponentPart_eq (negative : Bool) (n : Nat) (before : Int) (s : List Char) :
    exponentPart negative n before s =
      match Decimal.withoutSign s with
      | [] => failBefore .endInValue []
      | c :: after =>
        if c.isDigit then
          exponentDigits negative n before (s.head? != some '-') (digitValue c) after
        else failAt .invalidNumber (Decimal.withoutSign s) :=
  rfl

theorem exponentPart_append (hrest : Ends rest) {before : Int} {s : List Char}
    (h : exponentPart negative n before s = .ok (v, [])) :
    exponentPart negative n before (s ++ rest) = .ok (v, rest) := by
  have hs : s ≠ [] := by
    rintro rfl
    cases h
  have hhead : (s ++ rest).head? = s.head? := List.head?_append_of_ne_nil _ hs
  rw [exponentPart_eq] at h
  rw [exponentPart_eq, withoutSign_append hs, hhead]
  cases hdigits : Decimal.withoutSign s with
  | nil =>
    rw [hdigits] at h
    cases h
  | cons c after =>
    rw [hdigits] at h
    dsimp only [List.cons_append] at h ⊢
    split at h
    · rename_i hdigit
      rw [if_pos hdigit]
      exact exponentDigits_append hrest h
    · cases h

/-- What is read behind the digits of a fraction. -/
def afterFraction (negative : Bool) (n : Nat) (exponent : Int) (s : List Char) :
    Except Fault (Json × List Char) :=
  match s with
  | 'e' :: after => exponentPart negative n exponent after
  | 'E' :: after => exponentPart negative n exponent after
  | after => real negative n exponent after

/-- Without an exponent the number is done. -/
theorem afterFraction_of_ends {exponent : Int} (hrest : Ends rest) :
    afterFraction negative n exponent rest = real negative n exponent rest := by
  unfold afterFraction
  split
  · exact absurd rfl (hrest _ rfl).2.2.1
  · exact absurd rfl (hrest _ rfl).2.2.2
  · rfl

theorem afterFraction_append (hrest : Ends rest) {exponent : Int} {s : List Char}
    (h : afterFraction negative n exponent s = .ok (v, [])) :
    afterFraction negative n exponent (s ++ rest) = .ok (v, rest) := by
  unfold afterFraction at h
  split at h
  · exact exponentPart_append hrest h
  · exact exponentPart_append hrest h
  · obtain ⟨rfl, hreal⟩ := real_append h
    rw [List.nil_append, afterFraction_of_ends hrest, hreal]

theorem fractionPart_append (hrest : Ends rest) {before : Int} {s : List Char}
    (h : fractionPart negative n before s = .ok (v, [])) :
    fractionPart negative n before (s ++ rest) = .ok (v, rest) := by
  cases s with
  | nil => cases h
  | cons c s =>
    unfold fractionPart at h ⊢
    dsimp only [List.cons_append] at h ⊢
    split at h
    · rename_i hdigit
      rw [if_pos hdigit, ← List.cons_append, significand_append hrest,
        dropWhile_isDigit_append hrest, List.length_append, List.length_append,
        Nat.add_sub_add_right]
      exact afterFraction_append hrest h
    · cases h

/-- What is read behind the digits of a number; `integer` is the number they make alone. -/
def afterDigits (negative : Bool) (n : Nat) (dropped : Int)
    (integer : List Char → Except Fault (Json × List Char)) (s : List Char) :
    Except Fault (Json × List Char) :=
  match s with
  | '.' :: digits => fractionPart negative n dropped digits
  | 'e' :: digits => exponentPart negative n dropped digits
  | 'E' :: digits => exponentPart negative n dropped digits
  | _ => integer s

/-- Without a fraction and an exponent it is an integer. -/
theorem afterDigits_of_ends {dropped : Int}
    {integer : List Char → Except Fault (Json × List Char)} (hrest : Ends rest) :
    afterDigits negative n dropped integer rest = integer rest := by
  unfold afterDigits
  split
  · exact absurd rfl (hrest _ rfl).2.1
  · exact absurd rfl (hrest _ rfl).2.2.1
  · exact absurd rfl (hrest _ rfl).2.2.2
  · rfl

theorem afterDigits_append (hrest : Ends rest) {dropped : Int}
    {integer : List Char → Except Fault (Json × List Char)}
    (hinteger : ∀ s, integer s = .ok (v, []) → s = [] ∧ ∀ rest, integer rest = .ok (v, rest))
    {s : List Char} (h : afterDigits negative n dropped integer s = .ok (v, [])) :
    afterDigits negative n dropped integer (s ++ rest) = .ok (v, rest) := by
  unfold afterDigits at h
  split at h
  · exact fractionPart_append hrest h
  · exact exponentPart_append hrest h
  · exact exponentPart_append hrest h
  · obtain ⟨rfl, hreal⟩ := hinteger _ h
    rw [List.nil_append, afterDigits_of_ends hrest, hreal]

/-- The number that digits make, when `dropped` of them do not fit. -/
def integral (negative : Bool) (n dropped : Nat) (rest : List Char) :
    Except Fault (Json × List Char) :=
  if dropped ≠ 0 then real negative n dropped rest
  else if !negative then .ok (.number (.integer n), rest)
  else if n = 0 ∨ Nat.pow 2 63 < n then .ok (signedReal true (Float.ofNat n), rest)
  else .ok (.number (.integer (-n)), rest)

/-- An integer is read without a look at what follows. -/
theorem integral_append {dropped : Nat} (s : List Char)
    (h : integral negative n dropped s = .ok (v, [])) :
    s = [] ∧ ∀ rest, integral negative n dropped rest = .ok (v, rest) := by
  unfold integral at h ⊢
  split at h
  · rename_i hdropped
    simp only [if_pos hdropped]
    exact real_append h
  · rename_i hdropped
    simp only [if_neg hdropped]
    split at h
    · rename_i hpositive
      simp only [if_pos hpositive]
      cases h
      exact ⟨rfl, fun rest ↦ rfl⟩
    · rename_i hnegative
      simp only [if_neg hnegative]
      split at h
      · rename_i hlong
        simp only [if_pos hlong]
        cases h
        exact ⟨rfl, fun rest ↦ rfl⟩
      · rename_i hfits
        simp only [if_neg hfits]
        cases h
        exact ⟨rfl, fun rest ↦ rfl⟩

/-- A numeral begins with a digit, which is a zero only if no other one comes next. -/
theorem number_cons {c : Char} {after : List Char} (hdigit : c.isDigit = true)
    (hzero : ¬(c = '0' ∧ (after.headD ' ').isDigit = true)) :
    number negative (c :: after) =
      let digits := significand (digitValue c) after
      let rest := digits.2.dropWhile Char.isDigit
      let dropped := digits.2.length - rest.length
      afterDigits negative digits.1 dropped (integral negative digits.1 dropped) rest := by
  rw [number]
  simp only [hdigit, Bool.not_true, Bool.false_eq_true, if_false, if_neg hzero]
  rfl

/-- A number that is a whole text is read as the same number before any text that does not go on
with it. -/
theorem number_append (hrest : Ends rest) {s : List Char}
    (h : number negative s = .ok (v, [])) : number negative (s ++ rest) = .ok (v, rest) := by
  cases s with
  | nil => cases h
  | cons c after =>
    have hdigit : c.isDigit = true := by
      by_contra hother
      rw [number, if_pos (by simpa using hother)] at h
      cases h
    have hzero : ¬(c = '0' ∧ (after.headD ' ').isDigit = true) := by
      intro hzero
      rw [number, if_neg (by simp [hdigit]), if_pos hzero] at h
      cases h
    have hzero' : ¬(c = '0' ∧ ((after ++ rest).headD ' ').isDigit = true) := by
      rintro ⟨rfl, hnext⟩
      refine hzero ⟨rfl, ?_⟩
      cases after with
      | nil =>
        cases rest with
        | nil => cases hnext
        | cons d rest =>
          rw [show ((([] : List Char) ++ d :: rest).headD ' ') = d from rfl,
            (hrest d rfl).1] at hnext
          cases hnext
      | cons d after => exact hnext
    rw [number_cons hdigit hzero] at h
    rw [List.cons_append, number_cons hdigit hzero']
    dsimp only at h ⊢
    rw [significand_append hrest, dropWhile_isDigit_append hrest, List.length_append,
      List.length_append, Nat.add_sub_add_right]
    exact afterDigits_append hrest integral_append h

end Append

section Digits

theorem le_ofDigitChars (digits : List Char) (n : Nat) : n ≤ Nat.ofDigitChars 10 digits n := by
  induction digits generalizing n with
  | nil => exact Nat.le_refl n
  | cons c digits ih =>
    calc
      n ≤ 10 * n + (c.toNat - '0'.toNat) := by omega
      _ ≤ Nat.ofDigitChars 10 digits (10 * n + (c.toNat - '0'.toNat)) := ih _

/-- The significand of digits that fit 64 bits is the number that they write. -/
theorem significand_digits {digits : List Char} (hdigits : ∀ c ∈ digits, c.isDigit = true) {n : Nat}
    (h : Nat.ofDigitChars 10 digits n < 2 ^ 64) :
    significand n digits = (Nat.ofDigitChars 10 digits n, []) := by
  induction digits generalizing n with
  | nil => rfl
  | cons c digits ih =>
    have hfits : 10 * n + digitValue c < 2 ^ 64 := Nat.lt_of_le_of_lt (le_ofDigitChars digits _) h
    rw [significand, if_pos ⟨hdigits c List.mem_cons_self, hfits⟩]
    exact ih (fun d hd ↦ hdigits d (List.mem_cons_of_mem c hd)) h

theorem exists_toDigits_eq_cons (n : Nat) :
    ∃ c s, Nat.toDigits 10 n = c :: s ∧ c.isDigit = true := by
  obtain ⟨c, s, hdigits⟩ := List.exists_cons_of_ne_nil (Nat.toDigits_ne_nil (n := n) (b := 10))
  exact ⟨c, s, hdigits,
    Nat.isDigit_of_mem_toDigits (by decide) (by decide) (hdigits ▸ List.mem_cons_self)⟩

/-- The digits of an integer are all read as one significand. -/
theorem number_toDigits {n : Nat} (h : n < 2 ^ 64) (negative : Bool) :
    number negative (Nat.toDigits 10 n) = integral negative n 0 [] := by
  obtain ⟨c, after, hdigits⟩ := List.exists_cons_of_ne_nil (Nat.toDigits_ne_nil (n := n) (b := 10))
  have hdigit {d : Char} (hd : d ∈ c :: after) : d.isDigit = true :=
    Nat.isDigit_of_mem_toDigits (by decide) (by decide) (hdigits ▸ hd)
  have hvalue : Nat.ofDigitChars 10 after (digitValue c) = n := by
    rw [← Nat.ofDigitChars_toDigits (b := 10) (n := n) (by decide) (by decide), hdigits,
      Nat.ofDigitChars_cons, Nat.mul_zero, Nat.zero_add]
    rfl
  have hzero : ¬(c = '0' ∧ (after.headD ' ').isDigit = true) := by
    rintro ⟨rfl, hnext⟩
    rcases Nat.eq_zero_or_pos n with rfl | hpos
    · cases hdigits
      cases hnext
    · exact Decimal.head?_toDigits_ne hpos (by rw [hdigits]; rfl)
  rw [hdigits, number_cons (hdigit List.mem_cons_self) hzero,
    significand_digits (fun d hd ↦ hdigit (List.mem_cons_of_mem c hd)) (by rwa [hvalue]), hvalue]
  rfl

end Digits

theorem isSpace_of_isDigit {c : Char} (h : c.isDigit = true) : isSpace c = false := by
  have hother {d : Char} (hd : d.isDigit = false) : c ≠ d := by
    rintro rfl
    exact Bool.false_ne_true (hd.symm.trans h)
  simp [isSpace, hother]

/-- A value that begins with a digit is a number. -/
theorem value_digit {c : Char} (h : c.isDigit = true) (room : Nat) (s : List Char) :
    value (room + 1) (c :: s) = number false (c :: s) := by
  have hspace : skipSpace (c :: s) = c :: s :=
    List.dropWhile_cons_of_neg (by rw [isSpace_of_isDigit h]; exact Bool.false_ne_true)
  rw [value, hspace]
  split
  case h_9 hsame =>
    cases hsame
    exact if_pos h
  all_goals
    rename_i hsame
    cases hsame <;> cases h

theorem value_minus (room : Nat) (s : List Char) :
    value (room + 1) ('-' :: s) = number true s := rfl

end Parser

/-- Whether the text of a number is read as the same number. -/
def Number.ReadsBack (n : Number) : Prop :=
  Parser.value 1 n.text.toList = .ok (.number n, [])

namespace Number

theorem mem_text_real {x : Float} {b : Decimal.Binary} (h : Decimal.Binary.ofFloat? x = some b)
    {c : Char} (hc : c ∈ (Number.real x).text.toList) :
    c.isDigit = true ∨ c ∈ ['.', 'e', '-', '+'] := by
  rw [text, Decimal.format?, h] at hc
  exact Decimal.Layout.mem_signed (fun d ↦ Decimal.isDigit_of_mem_shortest) hc

theorem text_integer_of_nonneg {n : Int} (h : 0 ≤ n) :
    (Number.integer n).text.toList = Nat.toDigits 10 n.toNat := by
  have habs : n.natAbs = n.toNat := by omega
  rw [text, Decimal.toList_toString_int, if_neg (Int.not_lt.mpr h), habs]
  rfl

/-- Before a negative integer there is a sign, and then the digits of its amount. -/
theorem text_integer_of_neg {n : Int} (h : n < 0) :
    (Number.integer n).text.toList = '-' :: Nat.toDigits 10 (-n).toNat := by
  have habs : n.natAbs = (-n).toNat := by omega
  rw [text, Decimal.toList_toString_int, if_pos h, habs]
  rfl

/-- A number that is read back begins with a digit or a minus sign. -/
theorem ReadsBack.exists_text_eq_cons {n : Number} (h : n.ReadsBack) :
    ∃ c s, n.text.toList = c :: s ∧ (c.isDigit = true ∨ c = '-') := by
  cases n with
  | integer n =>
    rcases Int.lt_or_le n 0 with hneg | hnonneg
    · exact ⟨_, _, text_integer_of_neg hneg, .inr rfl⟩
    · obtain ⟨c, s, hdigits, hdigit⟩ := Parser.exists_toDigits_eq_cons n.toNat
      exact ⟨c, s, (text_integer_of_nonneg hnonneg).trans hdigits, .inl hdigit⟩
  | real x =>
    cases hx : Decimal.Binary.ofFloat? x with
    | none =>
      rw [ReadsBack, text, Decimal.format?, hx] at h
      cases h
    | some b =>
      rw [ReadsBack] at h
      rcases htext : (Number.real x).text.toList with _ | ⟨c, s⟩
      · rw [htext] at h
        cases h
      · rw [htext] at h
        refine ⟨c, s, rfl, ?_⟩
        rcases mem_text_real hx (htext ▸ List.mem_cons_self) with hdigit | hother
        · exact .inl hdigit
        · simp only [List.mem_cons, List.not_mem_nil, or_false] at hother
          rcases hother with rfl | rfl | rfl | rfl
          · cases h
          · cases h
          · exact .inr rfl
          · cases h

/-- Whatever stands behind a number that is read back, if the number ends there. -/
theorem ReadsBack.value_append {n : Number} (h : n.ReadsBack) {rest : List Char}
    (hrest : Ends rest) (room : Nat) :
    Parser.value (room + 1) (n.text.toList ++ rest) = .ok (.number n, rest) := by
  obtain ⟨c, s, htext, hdigit | rfl⟩ := h.exists_text_eq_cons
  · rw [ReadsBack, htext, Parser.value_digit hdigit] at h
    rw [htext, List.cons_append, Parser.value_digit hdigit, ← List.cons_append]
    exact Parser.number_append hrest h
  · rw [ReadsBack, htext, Parser.value_minus] at h
    rw [htext, List.cons_append, Parser.value_minus]
    exact Parser.number_append hrest h

/-- Integers of at most 64 bits, signed or unsigned, are read back. -/
theorem readsBack_integer {n : Int} (hleast : -2 ^ 63 ≤ n) (hmost : n < 2 ^ 64) :
    (Number.integer n).ReadsBack := by
  rcases Int.lt_or_le n 0 with hneg | hnonneg
  · rw [ReadsBack, text_integer_of_neg hneg, Parser.value_minus,
      Parser.number_toDigits (by omega), Parser.integral, if_neg (not_not.mpr rfl),
      if_neg (by decide), if_neg]
    · rw [Int.toNat_of_nonneg (by omega), Int.neg_neg]
    · simp only [Nat.pow_eq]
      omega
  · obtain ⟨c, s, hdigits, hdigit⟩ := Parser.exists_toDigits_eq_cons n.toNat
    rw [ReadsBack, text_integer_of_nonneg hnonneg, hdigits, Parser.value_digit hdigit, ← hdigits,
      Parser.number_toDigits (by omega), Parser.integral, if_neg (not_not.mpr rfl),
      if_pos Bool.not_false, Int.toNat_of_nonneg hnonneg]

end Number

end Barometer.Json
