import Barometer.Proofs.Text.Letters
import Barometer.Store.Value

/-!
# Numbers in lower case

The number that a text begins with is written with digits, signs, a point and the letter of an
exponent, which may be a capital. So texts that begin alike, up to the case of that letter, count as
the same number, whatever stands behind, and lower case changes no number.
-/

namespace Barometer.Store.Value

open Decimal (Numeral withoutSign)
open Text (lower lowerAfter lowerLetter)

/-- Whether a character can stand in a written number, or before one. -/
def isNumeric (c : Char) : Bool :=
  isGap c || c.isDigit || c == '+' || c == '-' || c == '.' || c == 'e' || c == 'E'

/-- Whether two texts are the same up to where no number goes on, apart from the case of an exponent
letter. -/
inductive BeginAlike : List Char → List Char → Prop
  | nil : BeginAlike [] []
  | same (c : Char) {s t : List Char} (h : BeginAlike s t) : BeginAlike (c :: s) (c :: t)
  | exponent {s t : List Char} (h : BeginAlike s t) : BeginAlike ('E' :: s) ('e' :: t)
  | other {c d : Char} (hc : isNumeric c = false) (hd : isNumeric d = false) (s t : List Char) :
      BeginAlike (c :: s) (d :: t)

/-- The only letters of numbers are those of an exponent. -/
theorem toNat_of_isNumeric {c : Char} (h : isNumeric c = true) :
    c.toNat < 65 ∨ c = 'e' ∨ c = 'E' := by
  simp only [isNumeric, isGap, Bool.or_eq_true, Bool.and_eq_true, decide_eq_true_eq,
    beq_iff_eq] at h
  rcases h with ((((((rfl | h) | h) | rfl) | rfl) | rfl) | rfl) | rfl
  · decide
  · omega
  · have hdigit : c.toNat ≤ 57 := (Char.isDigit_iff_toNat.mp h).2
    omega
  all_goals decide

theorem ascii_of_isNumeric {c : Char} (h : isNumeric c = true) : c.toNat < 128 := by
  rcases toNat_of_isNumeric h with hlow | rfl | rfl
  · omega
  · decide
  · decide

/-- Of the signs of numerals only the letter of an exponent has two cases. -/
theorem toLower_of_isNumeric {c : Char} (h : isNumeric c = true) : c.toLower = c ∨ c = 'E' := by
  rcases toNat_of_isNumeric h with hlow | rfl | rfl
  · exact .inl (Text.toLower_eq_self (.inl hlow))
  · exact .inl (by decide)
  · exact .inr rfl

/-- Lower case makes nothing of a number. -/
theorem isNumeric_of_mem_lowerLetter {c d : Char} (hd : d ∈ lowerLetter c)
    (h : isNumeric d = true) : isNumeric c = true := by
  rcases Text.ascii_of_mem_lowerLetter hd (ascii_of_isNumeric h) with ⟨hc, rfl⟩ | rfl | rfl
  · by_cases hcapital : 65 ≤ c.toNat ∧ c.toNat ≤ 90
    · have hlower := Text.toNat_toLower c
      rw [if_pos hcapital] at hlower
      have hcode : c.toLower.toNat = 'e'.toNat ∨ c.toLower.toNat = 'E'.toNat :=
        (toNat_of_isNumeric h).elim (fun hlow ↦ by omega)
          (.imp (congrArg Char.toNat) (congrArg Char.toNat))
      have hexponent : c = 'E' := Char.toNat_inj.mp <| by
        rw [hlower] at hcode
        have hletters : 'e'.toNat = 101 ∧ 'E'.toNat = 69 := by decide
        omega
      rw [hexponent]
      decide
    · rwa [Text.toLower_eq_self (by omega)] at h
  · exact absurd h (by decide)
  · exact absurd h (by decide)

/-- Lowering keeps the beginning that a number can be read from. -/
theorem beginAlike_lowerAfter (seen s : List Char) : BeginAlike s (lowerAfter seen s) := by
  induction s generalizing seen with
  | nil => exact .nil
  | cons c rest ih =>
    rw [lowerAfter]
    split
    · rename_i hsigma
      rw [hsigma]
      refine .other (by decide) ?_ _ _
      split <;> decide
    · by_cases hc : isNumeric c = true
      · rw [Text.lowerLetter_of_ascii (ascii_of_isNumeric hc), List.singleton_append]
        rcases toLower_of_isNumeric hc with hlower | rfl
        · rw [hlower]
          exact .same c (ih _)
        · exact .exponent (ih _)
      · obtain ⟨d, ds, hlower⟩ := List.exists_cons_of_ne_nil (Text.lowerLetter_ne_nil c)
        rw [hlower, List.cons_append]
        refine .other (Bool.eq_false_iff.mpr hc) (Bool.eq_false_iff.mpr fun hd ↦ hc ?_) _ _
        exact isNumeric_of_mem_lowerLetter (hlower ▸ List.mem_cons_self) hd

theorem withoutSign_cons {c : Char} (hplus : c ≠ '+') (hminus : c ≠ '-') (rest : List Char) :
    withoutSign (c :: rest) = c :: rest := by
  unfold withoutSign
  split
  · rename_i h
    exact absurd (List.cons.inj h).1 hplus
  · rename_i h
    exact absurd (List.cons.inj h).1 hminus
  · rfl

theorem fractionOf_cons {c : Char} (hc : c ≠ '.') (rest : List Char) :
    Numeral.fractionOf (c :: rest) = ([], false, c :: rest) := by
  unfold Numeral.fractionOf
  split
  · rename_i h
    exact absurd (List.cons.inj h).1 hc
  · rfl

theorem readExponent?_cons (letter : Char) (signed : List Char) :
    Numeral.readExponent? (letter :: signed) =
      if letter != 'e' && letter != 'E' then none
      else match (withoutSign signed).takeWhile Char.isDigit with
        | [] => none
        | ds => some (if signed.head? = some '-' then -(Numeral.ofDigits ds : Int)
            else Numeral.ofDigits ds, (withoutSign signed).dropWhile Char.isDigit) := rfl

namespace BeginAlike

variable {s t : List Char}

theorem isDigit_of_not_isNumeric {c : Char} (hc : isNumeric c = false) : c.isDigit = false := by
  simp only [isNumeric, Bool.or_eq_false_iff] at hc
  exact hc.1.1.1.1.1.2

theorem ne_of_not_isNumeric {c : Char} (hc : isNumeric c = false) {d : Char}
    (hd : isNumeric d = true) : c ≠ d := by
  rintro rfl
  rw [hd] at hc
  cases hc

/-- Digits at the beginning are the same on both sides. -/
theorem takeWhile_isDigit (h : BeginAlike s t) :
    s.takeWhile Char.isDigit = t.takeWhile Char.isDigit := by
  induction h with
  | nil => rfl
  | same c h ih => rw [List.takeWhile_cons, List.takeWhile_cons, ih]
  | exponent h => rfl
  | other hc hd => simp [isDigit_of_not_isNumeric hc, isDigit_of_not_isNumeric hd]

/-- What is left behind signs of numerals begins alike again. -/
theorem dropWhile {p : Char → Bool} (hp : ∀ c, p c = true → isNumeric c = true)
    (hexponent : p 'e' = false ∧ p 'E' = false) (h : BeginAlike s t) :
    BeginAlike (s.dropWhile p) (t.dropWhile p) := by
  induction h with
  | nil => exact .nil
  | same c h ih =>
    rw [List.dropWhile_cons, List.dropWhile_cons]
    split
    · exact ih
    · exact .same c h
  | exponent h =>
    rw [List.dropWhile_cons, List.dropWhile_cons, hexponent.1, hexponent.2]
    exact .exponent h
  | @other c d hc hd s t =>
    have hother {c : Char} (hc : isNumeric c = false) : p c = false :=
      Bool.eq_false_iff.mpr fun h ↦ Bool.eq_false_iff.mp hc (hp c h)
    rw [List.dropWhile_cons, List.dropWhile_cons, hother hc, hother hd]
    exact .other hc hd s t

theorem dropWhile_isDigit (h : BeginAlike s t) :
    BeginAlike (s.dropWhile Char.isDigit) (t.dropWhile Char.isDigit) :=
  h.dropWhile (fun c hc ↦ by simp [isNumeric, hc]) (by decide)

theorem dropWhile_isGap (h : BeginAlike s t) :
    BeginAlike (s.dropWhile isGap) (t.dropWhile isGap) :=
  h.dropWhile (fun c hc ↦ by simp [isNumeric, hc]) (by decide)

/-- Both texts begin with a minus, or neither does. -/
theorem head?_eq_minus_iff (h : BeginAlike s t) : s.head? = some '-' ↔ t.head? = some '-' := by
  cases h with
  | nil => rfl
  | same c h => rfl
  | exponent h => simp
  | other hc hd =>
    have hminus : isNumeric '-' = true := by decide
    simp [ne_of_not_isNumeric hc hminus, ne_of_not_isNumeric hd hminus]

theorem withoutSign (h : BeginAlike s t) : BeginAlike (withoutSign s) (withoutSign t) := by
  cases h with
  | nil => exact .nil
  | same c h =>
    by_cases hplus : c = '+'
    · rw [hplus]
      exact h
    · by_cases hminus : c = '-'
      · rw [hminus]
        exact h
      · rw [withoutSign_cons hplus hminus, withoutSign_cons hplus hminus]
        exact .same c h
  | exponent h => exact .exponent h
  | other hc hd s t =>
    have hsign {c : Char} (hc : isNumeric c = false) (rest : List Char) :
        Decimal.withoutSign (c :: rest) = c :: rest :=
      withoutSign_cons (ne_of_not_isNumeric hc (by decide))
        (ne_of_not_isNumeric hc (by decide)) rest
    rw [hsign hc, hsign hd]
    exact .other hc hd s t

/-- The fractions are the same, and what is left begins alike. -/
theorem fractionOf (h : BeginAlike s t) :
    (Numeral.fractionOf s).1 = (Numeral.fractionOf t).1 ∧
      (Numeral.fractionOf s).2.1 = (Numeral.fractionOf t).2.1 ∧
      BeginAlike (Numeral.fractionOf s).2.2 (Numeral.fractionOf t).2.2 := by
  cases h with
  | nil => exact ⟨rfl, rfl, .nil⟩
  | same c h =>
    by_cases hc : c = '.'
    · rw [hc]
      exact ⟨h.takeWhile_isDigit, rfl, h.dropWhile_isDigit⟩
    · rw [fractionOf_cons hc, fractionOf_cons hc]
      exact ⟨rfl, rfl, .same c h⟩
  | exponent h => exact ⟨rfl, rfl, .exponent h⟩
  | other hc hd s t =>
    rw [fractionOf_cons (ne_of_not_isNumeric hc (by decide)),
      fractionOf_cons (ne_of_not_isNumeric hd (by decide))]
    exact ⟨rfl, rfl, .other hc hd s t⟩

/-- An exponent may begin with either letter. -/
theorem readExponent? (h : BeginAlike s t) :
    (Numeral.readExponent? s).map Prod.fst = (Numeral.readExponent? t).map Prod.fst := by
  have htail {letter letter' : Char} {s t : List Char} (h : BeginAlike s t)
      (hletter : (letter != 'e' && letter != 'E') = (letter' != 'e' && letter' != 'E')) :
      (Numeral.readExponent? (letter :: s)).map Prod.fst =
        (Numeral.readExponent? (letter' :: t)).map Prod.fst := by
    rw [readExponent?_cons, readExponent?_cons, hletter]
    simp only [h.withoutSign.takeWhile_isDigit, h.head?_eq_minus_iff]
    split
    · rfl
    · split <;> rfl
  cases h with
  | nil => rfl
  | same c h => exact htail h rfl
  | exponent h => exact htail h rfl
  | other hc hd s t =>
    have hnone {c : Char} (hc : isNumeric c = false) (rest : List Char) :
        Numeral.readExponent? (c :: rest) = none := by
      rw [readExponent?_cons, if_pos]
      rw [Bool.and_eq_true, bne_iff_ne, bne_iff_ne]
      exact ⟨ne_of_not_isNumeric hc (by decide), ne_of_not_isNumeric hc (by decide)⟩
    rw [hnone hc, hnone hd]

/-- Texts that begin alike begin with the same number. -/
theorem read? (h : BeginAlike s t) :
    (Numeral.read? s).map Prod.fst = (Numeral.read? t).map Prod.fst := by
  have hbody := h.withoutSign
  obtain ⟨hfraction, hpointed, hrest⟩ := hbody.dropWhile_isDigit.fractionOf
  have hexponent := hrest.readExponent?
  have hminus : (s.head? == some '-') = (t.head? == some '-') := by
    rw [Bool.eq_iff_iff, beq_iff_eq, beq_iff_eq]
    exact h.head?_eq_minus_iff
  unfold Numeral.read?
  simp only [hbody.takeWhile_isDigit, hfraction, hpointed, hminus]
  split
  · rfl
  · revert hexponent
    generalize Numeral.readExponent? (Numeral.fractionOf _).2.2 = e
    generalize Numeral.readExponent? (Numeral.fractionOf _).2.2 = e'
    intro hexponent
    rcases e with _ | ⟨n, rest⟩ <;> rcases e' with _ | ⟨n', rest'⟩
    · rfl
    · cases hexponent
    · cases hexponent
    · cases hexponent
      rfl

/-- So the integer that a text begins with stays what it is. -/
theorem leadingInteger (h : BeginAlike s t) :
    Quantity.leadingInteger s = Quantity.leadingInteger t := by
  unfold Quantity.leadingInteger
  rw [h.withoutSign.takeWhile_isDigit]
  simp only [h.head?_eq_minus_iff]

end BeginAlike

/-- A text counts for the same in lower case. -/
theorem Quantity.ofText_lower (s : String) :
    Quantity.ofText (lower s) = Quantity.ofText s := by
  have halike : BeginAlike (s.toList.dropWhile isGap) ((lower s).toList.dropWhile isGap) := by
    rw [lower, String.toList_ofList]
    exact (beginAlike_lowerAfter [] s.toList).dropWhile_isGap
  have hread := halike.read?
  rw [ofText, ofText, ← halike.leadingInteger]
  revert hread
  generalize Numeral.read? (s.toList.dropWhile isGap) = n
  generalize Numeral.read? ((lower s).toList.dropWhile isGap) = n'
  intro hread
  rcases n with _ | ⟨n, rest⟩ <;> rcases n' with _ | ⟨n', rest'⟩
  · rfl
  · cases hread
  · cases hread
  · cases hread
    rfl

end Barometer.Store.Value
