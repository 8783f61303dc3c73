import Barometer.Proofs.Decimal.Binary
import Barometer.Proofs.Decimal.Digits
import Mathlib.Data.List.TakeWhile
import Mathlib.Tactic.Ring

/-!
# Doubles as whole numbers

A double is a number of units of its least positive one, and two doubles with the same number of
them are the same, up to the sign of zero. The shortest digits of a whole number below `2 ^ 53` are
its own digits, since between it and the next whole numbers the rounding interval ends.
-/

namespace Barometer.Decimal

namespace Binary

/-- The place after the binary point that the least positive double has its digit in. -/
def leastPlace : Nat := 1074

/-- What the parts of a double are like: only the least exponent has small mantissas. -/
structure IsDouble (b : Binary) : Prop where
  mantissa_lt : b.mantissa < 2 ^ 53
  least_le : -(leastPlace : Int) ≤ b.exponent
  le_mantissa : -(leastPlace : Int) < b.exponent → 2 ^ 52 ≤ b.mantissa

/-- The parts of a number fit into its bits. -/
theorem isDouble_of_ofFloat? {x : Float} {b : Binary} (h : ofFloat? x = some b) : b.IsDouble := by
  unfold ofFloat? at h
  have hfraction : x.toBits.toNat % 2 ^ 52 < 2 ^ 52 := Nat.mod_lt _ (by decide)
  have hplace : (leastPlace : Int) = 1074 := rfl
  simp only [Nat.pow_eq] at h
  split at h
  · cases h
  · split at h
    · cases h
      exact ⟨by dsimp only; omega, Int.le_refl _, fun hlt ↦ absurd hlt (Int.lt_irrefl _)⟩
    · cases h
      exact ⟨by dsimp only; omega, by dsimp only; omega, fun _ ↦ by dsimp only; omega⟩

/-- The units of the least positive double that make up one. -/
def unitsOfOne : Nat := 2 ^ leastPlace

theorem unitsOfOne_pos : 0 < unitsOfOne := Nat.two_pow_pos leastPlace

/-- The magnitude in units of the least positive double. -/
def units (b : Binary) : Nat := b.mantissa * 2 ^ (b.exponent + leastPlace).toNat

def signedUnits (b : Binary) : Int := if b.negative then -(b.units : Int) else b.units

theorem signedUnits_eq_zero_iff {b : Binary} : b.signedUnits = 0 ↔ b.mantissa = 0 := by
  have hunits : b.units = 0 ↔ b.mantissa = 0 :=
    Nat.mul_eq_zero.trans (or_iff_left (Nat.two_pow_pos _).ne')
  rw [← hunits, signedUnits]
  split <;> omega

/-- Of two doubles of one amount neither has the larger exponent. -/
theorem exponent_le_of_units_eq {b b' : Binary} (hb : b.IsDouble) (hb' : b'.IsDouble)
    (h : b.units = b'.units) : b'.exponent ≤ b.exponent := by
  refine Int.not_lt.mp fun hlt ↦ ?_
  have hleast := hb.least_le
  have hlarge := hb'.le_mantissa (by omega)
  obtain ⟨d, hd⟩ : ∃ d : Nat,
      (b'.exponent + leastPlace).toNat = (b.exponent + leastPlace).toNat + 1 + d :=
    ⟨(b'.exponent - b.exponent - 1).toNat, by omega⟩
  have hscaled : b.mantissa = b'.mantissa * 2 ^ (1 + d) := by
    have hunits : b.mantissa * 2 ^ (b.exponent + leastPlace).toNat =
        b'.mantissa * 2 ^ (1 + d) * 2 ^ (b.exponent + leastPlace).toNat := by
      rw [units, units, hd] at h
      rw [h]
      ring
    exact Nat.eq_of_mul_eq_mul_right (Nat.pow_pos (by decide)) hunits
  have hdouble : b'.mantissa * 2 ≤ b.mantissa := by
    rw [hscaled, Nat.pow_add]
    exact Nat.mul_le_mul_left _ (Nat.le_mul_of_pos_right 2 (Nat.pow_pos (by decide)))
  have hsmall := hb.mantissa_lt
  omega

/-- A double is told by its units and its sign. -/
theorem eq_of_signedUnits_eq {b b' : Binary} (hb : b.IsDouble) (hb' : b'.IsDouble)
    (h : b.signedUnits = b'.signedUnits) (hmantissa : b.mantissa ≠ 0) : b = b' := by
  have hpos : 0 < b.units := Nat.mul_pos (Nat.pos_of_ne_zero hmantissa) (Nat.pow_pos (by decide))
  have hsign : b.negative = b'.negative ∧ b.units = b'.units := by
    unfold signedUnits at h
    cases hn : b.negative <;> cases hn' : b'.negative <;> simp only [hn, hn', if_true, if_false,
      Bool.false_eq_true, true_and, false_and, reduceCtorEq] at h ⊢ <;> omega
  have hexponent : b.exponent = b'.exponent :=
    Int.le_antisymm (exponent_le_of_units_eq hb' hb hsign.2.symm)
      (exponent_le_of_units_eq hb hb' hsign.2)
  have hsame := hsign.2
  rw [units, units, hexponent] at hsame
  have hmantissas := Nat.eq_of_mul_eq_mul_right (Nat.pow_pos (by decide)) hsame
  rcases b with ⟨negative, mantissa, exponent⟩
  rcases b' with ⟨negative', mantissa', exponent'⟩
  obtain ⟨rfl, -⟩ := hsign
  cases hexponent
  cases hmantissas
  rfl

/-- A whole number `n` below `2 ^ 53`, as the units of a double. -/
structure IsWhole (b : Binary) (n : Nat) : Prop extends b.IsDouble where
  pos : 0 < n
  small : n < 2 ^ 53
  units_eq : b.units = n * unitsOfOne

variable {b : Binary} {n : Nat}

/-- The last bit of a small whole number stands for one at most. -/
theorem IsWhole.exponent_le (h : b.IsWhole n) : b.exponent ≤ 0 := by
  refine Int.not_lt.mp fun hlt ↦ ?_
  have hlarge := h.le_mantissa (by omega)
  obtain ⟨d, hd⟩ : ∃ d : Nat, (b.exponent + leastPlace).toNat = 1 + d + leastPlace :=
    ⟨(b.exponent - 1).toNat, by omega⟩
  have hn : b.mantissa * 2 ^ (1 + d) = n := by
    have hunits := h.units_eq
    rw [units, hd, Nat.pow_add, ← Nat.mul_assoc] at hunits
    exact Nat.eq_of_mul_eq_mul_right unitsOfOne_pos hunits
  have hdouble : b.mantissa * 2 ≤ n := by
    rw [← hn, Nat.pow_add]
    exact Nat.mul_le_mul_left _ (Nat.le_mul_of_pos_right 2 (Nat.pow_pos (by decide)))
  have hsmall := h.small
  omega

/-- The parts of a unit that the mantissa counts. -/
def parts (b : Binary) : Nat := 2 ^ (-b.exponent).toNat

theorem parts_pos (b : Binary) : 0 < b.parts := Nat.pow_pos (by decide)

theorem IsWhole.mantissa_eq (h : b.IsWhole n) : b.mantissa = n * b.parts := by
  have hle := h.exponent_le
  have hleast := h.least_le
  have hunits := h.units_eq
  have hone : unitsOfOne = b.parts * 2 ^ (b.exponent + leastPlace).toNat := by
    rw [unitsOfOne, parts, ← Nat.pow_add]
    congr 1
    omega
  rw [units, hone, ← Nat.mul_assoc] at hunits
  exact Nat.eq_of_mul_eq_mul_right (Nat.pow_pos (by decide)) hunits

/-- Below the point there is nothing but the parts of one, which quotients are taken by. -/
theorem IsWhole.scaled_eq (h : b.IsWhole n) (count : Nat) :
    b.scaled count = (count, 4 * b.parts) := by
  have hle := h.exponent_le
  unfold scaled parts
  split
  · have hzero : b.exponent = 0 := by omega
    rw [hzero]
    simp
  · rfl

/-- Of the whole numbers only the double's own value rounds to it. -/
theorem IsWhole.roundsTo_iff (h : b.IsWhole n) (m : Nat) : roundsTo b (m, 1) = true ↔ m = n := by
  have hpos := h.pos
  have hparts := b.parts_pos
  have hfour : b.parts ≤ n * b.parts := Nat.le_mul_of_pos_left _ hpos
  have hbelow : m < n → m * b.parts + b.parts ≤ n * b.parts := by
    intro hlt
    rw [← Nat.succ_mul]
    exact Nat.mul_le_mul_right _ hlt
  have habove : n < m → n * b.parts + b.parts ≤ m * b.parts := by
    intro hlt
    rw [← Nat.succ_mul]
    exact Nat.mul_le_mul_right _ hlt
  have hassoc : m * (4 * b.parts) = 4 * (m * b.parts) := by ring
  unfold roundsTo lowerEnd upperEnd
  simp only [h.scaled_eq, h.mantissa_eq, hassoc, Nat.mul_one]
  constructor
  · intro hrounds
    rcases Nat.lt_trichotomy m n with hlt | heq | hlt
    · have hlow := hbelow hlt
      split at hrounds <;>
        · simp only [Bool.and_eq_true, decide_eq_true_eq] at hrounds
          split at hrounds <;> omega
    · exact heq
    · have hhigh := habove hlt
      split at hrounds <;>
        · simp only [Bool.and_eq_true, decide_eq_true_eq] at hrounds
          split at hrounds <;> omega
  · rintro rfl
    split <;>
      · simp only [Bool.and_eq_true, decide_eq_true_eq]
        split <;> omega

theorem IsWhole.value_eq (h : b.IsWhole n) : b.value = (n * (4 * b.parts), 4 * b.parts) := by
  rw [value, h.scaled_eq, h.mantissa_eq, Nat.mul_left_comm]

theorem gridPoint_natCast (index e : Nat) : gridPoint index e = (index * 10 ^ e, 1) := by
  rw [gridPoint, if_pos (Int.natCast_nonneg e), Int.toNat_natCast, Nat.pow_eq]

/-- A whole number is its own neighbour on the grids that it lies on. -/
theorem IsWhole.neighbour?_eq (h : b.IsWhole n) (e : Nat) :
    neighbour? b e = if 10 ^ e ∣ n then some (n / 10 ^ e) else none := by
  have hfloor : gridFloor (n * (4 * b.parts)) (4 * b.parts) e = n / 10 ^ e := by
    rw [gridFloor, if_pos (Int.natCast_nonneg e), Int.toNat_natCast, Nat.pow_eq,
      Nat.mul_comm n, Nat.mul_div_mul_left _ _ (Nat.mul_pos (by decide) b.parts_pos)]
  have habove : roundsTo b (gridPoint (n / 10 ^ e + 1) e) = false := by
    rw [gridPoint_natCast, Bool.eq_false_iff, ne_eq, h.roundsTo_iff]
    have hlt := Nat.lt_mul_div_succ n (Nat.pow_pos (n := e) (by decide : 0 < 10))
    rw [Nat.mul_comm] at hlt
    omega
  have hbelow : (roundsTo b (gridPoint (n / 10 ^ e) e) && decide (n / 10 ^ e ≠ 0)) =
      decide (10 ^ e ∣ n) := by
    rw [gridPoint_natCast, Bool.eq_iff_iff, Bool.and_eq_true, h.roundsTo_iff, decide_eq_true_eq,
      decide_eq_true_eq]
    constructor
    · exact fun hexact ↦ ⟨n / 10 ^ e, by rw [Nat.mul_comm]; exact hexact.1.symm⟩
    · intro hdvd
      have hexact := Nat.div_mul_cancel hdvd
      refine ⟨hexact, fun hzero ↦ ?_⟩
      rw [hzero, Nat.zero_mul] at hexact
      exact absurd h.pos (by rw [← hexact]; exact Nat.lt_irrefl 0)
  rw [neighbour?, h.value_eq]
  simp only [hfloor, habove, hbelow, Bool.and_false, Bool.false_eq_true, if_false,
    decide_eq_true_eq]

/-- From any grid of tens, hundreds and so on the search ends at a divisor of the number. -/
theorem IsWhole.shortestFrom_eq (h : b.IsWhole n) {e count : Nat} (hlt : e < count) :
    ∃ k : Nat, 10 ^ k ∣ n ∧ shortestFrom b e count = some (pointDigits (n / 10 ^ k) k) := by
  induction count generalizing e with
  | zero => exact absurd hlt (Nat.not_lt_zero e)
  | succ count ih =>
    rw [shortestFrom, h.neighbour?_eq]
    by_cases hdvd : 10 ^ e ∣ n
    · exact ⟨e, hdvd, by rw [if_pos hdvd]⟩
    · rw [if_neg hdvd]
      cases e with
      | zero => exact absurd (Nat.one_dvd n) hdvd
      | succ e =>
        obtain ⟨k, hk, hfound⟩ := ih (Nat.lt_of_succ_lt_succ hlt)
        refine ⟨k, hk, ?_⟩
        rw [← hfound, Int.natCast_succ, Int.add_sub_cancel]

/-- The shortest digits of a whole number are its own, without the zeros at its end. -/
theorem IsWhole.shortest_eq (h : b.IsWhole n) :
    ∃ k : Nat, 10 ^ k ∣ n ∧ shortest b = pointDigits (n / 10 ^ k) k := by
  have hmantissa : b.mantissa ≠ 0 := by
    rw [h.mantissa_eq]
    exact (Nat.mul_pos h.pos b.parts_pos).ne'
  have hlength : (Nat.toDigits 10 n).length ≤ 16 :=
    (Nat.length_toDigits_le_iff (by decide) (by decide)).mpr
      (Nat.lt_trans h.small (by decide))
  have hleading : leadingExponent (n * (4 * b.parts)) (4 * b.parts) =
      (((Nat.toDigits 10 n).length - 1 : Nat) : Int) := by
    have hpos : 0 < 4 * b.parts := Nat.mul_pos (by decide) b.parts_pos
    rw [leadingExponent, if_pos (Nat.le_mul_of_pos_left _ h.pos), Nat.mul_div_cancel _ hpos]
    have hdigits := Nat.length_toDigits_pos (b := 10) (n := n)
    omega
  have hlt : (Nat.toDigits 10 n).length - 1 < 17 := by omega
  obtain ⟨k, hk, hfound⟩ := h.shortestFrom_eq hlt
  refine ⟨k, hk, ?_⟩
  simp only [shortest, if_neg hmantissa, h.value_eq, hleading, hfound, Option.getD_some]

end Binary

/-- A number ten to some power times as great has as many zeros at its end. -/
theorem toDigits_mul_pow {index : Nat} (h : 0 < index) (k : Nat) :
    Nat.toDigits 10 (index * 10 ^ k) = Nat.toDigits 10 index ++ List.replicate k '0' := by
  induction k with
  | zero => simp
  | succ k ih =>
    have hnext : index * 10 ^ (k + 1) = 10 * (index * 10 ^ k) + 0 := by ring
    have hpos : 0 < index * 10 ^ k := Nat.mul_pos h (Nat.pow_pos (by decide))
    rw [hnext, ← Nat.toDigits_append_toDigits (by decide) hpos (by decide), ih,
      List.replicate_succ', List.append_assoc]
    rfl

/-- What is dropped from the end of digits are zeros. -/
theorem trimZeros_append {digits : List Char} {c : Char} (hc : c ∈ digits) (hzero : c ≠ '0') :
    ∃ count, trimZeros digits ++ List.replicate count '0' = digits := by
  have hsplit := List.takeWhile_append_dropWhile (p := (· == '0')) (l := digits.reverse)
  have hdropped : digits.reverse.dropWhile (· == '0') ≠ [] := by
    intro hnil
    rw [List.dropWhile_eq_nil_iff] at hnil
    exact hzero (by simpa using hnil c (List.mem_reverse.mpr hc))
  have htrimmed : trimZeros digits = (digits.reverse.dropWhile (· == '0')).reverse := by
    unfold trimZeros
    split
    · rename_i hnil
      exact absurd (List.reverse_eq_nil_iff.mp hnil) hdropped
    · rfl
  have hzeros : (digits.reverse.takeWhile (· == '0')).reverse =
      List.replicate (digits.reverse.takeWhile (· == '0')).length '0' := by
    rw [List.eq_replicate_iff, List.length_reverse]
    refine ⟨rfl, fun d hd ↦ ?_⟩
    simpa using List.mem_takeWhile_imp (List.mem_reverse.mp hd)
  refine ⟨(digits.reverse.takeWhile (· == '0')).length, ?_⟩
  rw [htrimmed, ← hzeros, ← List.reverse_append, hsplit, List.reverse_reverse]

/-- Digits that end before the point are filled up with zeros. -/
theorem Layout.text_plain_of_length_le {digits : List Char} {exponent : Nat}
    (h : digits.length ≤ exponent + 1) :
    Layout.plain.text { digits, exponent } =
      digits ++ List.replicate (exponent + 1 - digits.length) '0' := by
  have hrange : Layout.plain.inRange exponent = true := rfl
  have hwhole : ¬ (exponent : Int) < 0 := by omega
  have hfraction : Layout.plain.keepFraction = false := rfl
  rw [text, if_pos hrange, positionalText, if_neg hwhole]
  simp only [Int.toNat_natCast, List.take_of_length_le h, List.drop_of_length_le h, hfraction]
  exact List.append_nil _

/-- The zeros come back when digits and exponent are written without an exponent. -/
theorem text_pointDigits {index : Nat} (h : 0 < index) (k : Nat) :
    Layout.plain.text (pointDigits index k) = Nat.toDigits 10 (index * 10 ^ k) := by
  obtain ⟨c, rest, hdigits⟩ :=
    List.exists_cons_of_ne_nil (Nat.toDigits_ne_nil (n := index) (b := 10))
  have hzero : c ≠ '0' := by
    rintro rfl
    exact head?_toDigits_ne h (by rw [hdigits]; rfl)
  have hmem : c ∈ Nat.toDigits 10 index := hdigits ▸ List.mem_cons_self
  obtain ⟨count, htrimmed⟩ := trimZeros_append hmem hzero
  have hlength := congrArg List.length htrimmed
  rw [List.length_append, List.length_replicate] at hlength
  have hpos := Nat.length_toDigits_pos (b := 10) (n := index)
  have hpoint : pointDigits index k =
      { digits := trimZeros (Nat.toDigits 10 index)
        exponent := ((k + (Nat.toDigits 10 index).length - 1 : Nat) : Int) } := by
    rw [pointDigits]
    congr 1
    omega
  have hcount : k + (Nat.toDigits 10 index).length - 1 + 1 -
      (trimZeros (Nat.toDigits 10 index)).length = count + k := by
    omega
  rw [hpoint, Layout.text_plain_of_length_le (by omega), hcount, ← List.replicate_append_replicate,
    ← List.append_assoc, htrimmed, toDigits_mul_pow h]

/-- A whole number below `2 ^ 53` is written with its own digits. -/
theorem Binary.IsWhole.text_shortest {b : Binary} {n : Nat} (h : b.IsWhole n) :
    Layout.plain.text (shortest b) = Nat.toDigits 10 n := by
  obtain ⟨k, hdvd, hshortest⟩ := h.shortest_eq
  have hpos : 0 < n / 10 ^ k :=
    Nat.div_pos (Nat.le_of_dvd h.pos hdvd) (Nat.pow_pos (by decide))
  rw [hshortest, text_pointDigits hpos, Nat.div_mul_cancel hdvd]

end Barometer.Decimal
