import Barometer.Json.Parser
import Barometer.Json.Printer
import Mathlib.Data.List.Basic

/-!
# Reading string literals

Every character of a literal stands for one character of the string, alone or as an escape, and the
first quote that is not escaped is the closing one. So a literal is read back before any text.
-/

namespace Barometer.Json

namespace Parser

theorem foldl_utf8Size (s : List Char) (n : Nat) :
    n + s.length ≤ s.foldl (fun n c ↦ n + c.utf8Size) n := by
  induction s generalizing n with
  | nil => exact Nat.le_refl n
  | cons c s ih =>
    calc
      n + (c :: s).length ≤ (n + c.utf8Size) + s.length := by
        rw [List.length_cons]
        have := c.utf8Size_pos
        omega
      _ ≤ (c :: s).foldl (fun n c ↦ n + c.utf8Size) n := ih _

/-- Every character takes a byte at least. -/
theorem length_le_byteCount (s : List Char) : s.length ≤ byteCount s := by
  rw [byteCount, ← Nat.zero_add s.length]
  exact foldl_utf8Size s 0

theorem hexValue?_hexDigit {n : Nat} (h : n < 16) : hexValue? (hexDigit n) = some n := by
  have hall : ∀ n < 16, hexValue? (hexDigit n) = some n := by decide
  exact hall n h

/-- The escape of a control character. -/
theorem unicodeEscape_control {c : Char} (h : c.toNat < 32) (rest : List Char) :
    unicodeEscape ('0' :: '0' :: hexDigit (c.toNat / 16) :: hexDigit (c.toNat % 16) :: rest) =
      .ok (c, rest) := by
  have hlong : 4 ≤ byteCount
      ('0' :: '0' :: hexDigit (c.toNat / 16) :: hexDigit (c.toNat % 16) :: rest) := by
    refine Nat.le_trans ?_ (length_le_byteCount _)
    simp only [List.length_cons]
    omega
  have hunit : hexUnit ('0' :: '0' :: hexDigit (c.toNat / 16) :: hexDigit (c.toNat % 16) :: rest) =
      .ok (c.toNat, rest) := by
    rw [hexUnit, if_neg (Nat.not_lt.mpr hlong), show hexValue? '0' = some 0 from rfl,
      hexValue?_hexDigit (by omega), hexValue?_hexDigit (by omega)]
    refine congrArg (fun n ↦ Except.ok (n, rest)) ?_
    omega
  rw [unicodeEscape, hunit]
  change (if 0xDC00 ≤ c.toNat ∧ c.toNat ≤ 0xDFFF then _
    else if c.toNat < 0xD800 ∨ 0xDBFF < c.toNat then _ else _) = _
  rw [if_neg (by omega), if_pos (by omega), Char.ofNat_toNat]
  rfl

/-- One character of a literal is read as the character that it stands for. -/
theorem characters_escape_append {fuel : Nat} {rest cs last : List Char}
    (h : characters fuel rest = .ok (cs, last)) (c : Char) :
    characters (fuel + 1) (escape c ++ rest) = .ok (c :: cs, last) := by
  have hescaped {s : List Char} (hs : escaped s = .ok (c, rest)) :
      characters (fuel + 1) ('\\' :: s) = .ok (c :: cs, last) := by
    rw [characters]
    rw [hs]
    change (characters fuel rest >>= _) = _
    rw [h]
    rfl
  rw [escape]
  by_cases hquote : c = '"' ∨ c = '\\'
  · rw [if_pos hquote]
    rcases hquote with rfl | rfl
    · exact hescaped rfl
    · exact hescaped rfl
  rw [if_neg hquote]
  by_cases hnewline : c = '\n'
  · subst hnewline
    exact hescaped rfl
  rw [if_neg hnewline]
  by_cases hreturn : c = '\r'
  · subst hreturn
    exact hescaped rfl
  rw [if_neg hreturn]
  by_cases htab : c = '\t'
  · subst htab
    exact hescaped rfl
  rw [if_neg htab]
  by_cases hback : c.toNat = 8
  · rw [if_pos hback]
    refine hescaped ?_
    rw [← Char.ofNat_toNat c, hback]
    rfl
  rw [if_neg hback]
  by_cases hfeed : c.toNat = 12
  · rw [if_pos hfeed]
    refine hescaped ?_
    rw [← Char.ofNat_toNat c, hfeed]
    rfl
  rw [if_neg hfeed]
  by_cases hcontrol : c.toNat < 32
  · rw [if_pos hcontrol]
    exact hescaped (unicodeEscape_control hcontrol rest)
  · rw [if_neg hcontrol, List.singleton_append, characters]
    · rw [if_neg hcontrol, h]
      rfl
    · exact fun hc ↦ hquote (.inl hc)
    · exact fun hc ↦ hquote (.inr hc)

/-- A literal is read up to its closing quote. -/
theorem characters_flatMap_escape {fuel : Nat} {s : List Char} (h : s.length < fuel)
    (rest : List Char) : characters fuel (s.flatMap escape ++ '"' :: rest) = .ok (s, rest) := by
  induction s generalizing fuel with
  | nil =>
    obtain ⟨fuel, rfl⟩ := Nat.exists_eq_succ_of_ne_zero (Nat.ne_of_gt h)
    rfl
  | cons c s ih =>
    obtain ⟨fuel, rfl⟩ := Nat.exists_eq_succ_of_ne_zero (Nat.ne_of_gt (Nat.zero_lt_of_lt h))
    rw [List.flatMap_cons, List.append_assoc]
    exact characters_escape_append (ih (Nat.lt_of_succ_lt_succ h)) c

theorem length_le_flatMap_escape (s : List Char) : s.length ≤ (s.flatMap escape).length := by
  induction s with
  | nil => exact Nat.le_refl 0
  | cons c s ih =>
    have hpos : 0 < (escape c).length := by
      rw [escape]
      repeat' split
      all_goals exact Nat.succ_pos _
    rw [List.flatMap_cons, List.length_append, List.length_cons]
    omega

/-- Escaped signs are read as they were, up to the quote at the end. -/
theorem stringBody_append (s : String) (rest : List Char) :
    stringBody (s.toList.flatMap escape ++ '"' :: rest) = .ok (s, rest) := by
  have hfuel : s.toList.length < (s.toList.flatMap escape ++ '"' :: rest).length + 1 := by
    have := length_le_flatMap_escape s.toList
    rw [List.length_append]
    omega
  rw [stringBody, characters_flatMap_escape hfuel]
  change Except.ok (String.ofList s.toList, rest) = _
  rw [String.ofList_toList]

end Parser

theorem toList_literal_append (s : String) (rest : List Char) :
    (literal s).toList ++ rest = '"' :: (s.toList.flatMap escape ++ '"' :: rest) := by
  rw [literal, String.toList_ofList]
  simp

end Barometer.Json
