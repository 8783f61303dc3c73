import Barometer.Proofs.Imports.Calendar
import Barometer.Proofs.Text.Canonical
import Mathlib.Algebra.Group.Nat.Defs

/-!
# Reading instants back

Every part of a written instant has the width that its reader wants, so a reader finds the parts one
after the other, and they lead back to the instant: the stored form to its whole second, the form
with a zone to the instant itself. A leap second is written as the sixtieth second of its minute and
is read as that.
-/

namespace Barometer.Timestamp

section Numbers

variable {width n : Nat}

theorem isDigit_of_mem_padded {c : Char} (h : c ∈ (padded width n).toList) : c.isDigit = true := by
  rw [padded, String.toList_ofList, List.mem_append] at h
  rcases h with h | h
  · rw [List.eq_of_mem_replicate h]
    rfl
  · exact Nat.isDigit_of_mem_toDigits (by decide) (by decide) h

theorem length_padded (hwidth : 0 < width) (h : n < 10 ^ width) :
    (padded width n).toList.length = width := by
  have hlength : (Nat.toDigits 10 n).length ≤ width :=
    (Nat.length_toDigits_le_iff (by decide) hwidth).mpr h
  rw [padded, String.toList_ofList, List.length_append, List.length_replicate]
  omega

/-- Zeros in front do not change a number. -/
theorem foldl_padded (width n : Nat) :
    (padded width n).toList.foldl (fun n c ↦ 10 * n + (c.toNat - 48)) 0 = n := by
  have hzeros (count : Nat) :
      (List.replicate count '0').foldl (fun n c ↦ 10 * n + (c.toNat - 48)) 0 = 0 := by
    induction count with
    | zero => rfl
    | succ count ih => exact ih
  rw [padded, String.toList_ofList, List.foldl_append, hzeros]
  exact Nat.ofDigitChars_toDigits (by decide) (by decide)

/-- Digits are read as far as a number may go, or up to the first other character. -/
theorem readNumber?_append {least most : Nat} {digits rest : List Char}
    (hdigits : ∀ c ∈ digits, c.isDigit = true) (hleast : least ≤ digits.length)
    (hmost : digits.length ≤ most)
    (hrest : digits.length = most ∨ ∀ c ∈ rest.head?, c.isDigit = false) :
    readNumber? least most (digits ++ rest) =
      some (digits.foldl (fun n c ↦ 10 * n + (c.toNat - 48)) 0, rest) := by
  have hstop : (rest.take (most - digits.length)).takeWhile Char.isDigit = [] := by
    rcases hrest with hfull | hother
    · rw [hfull, Nat.sub_self, List.take_zero]
      rfl
    · cases rest with
      | nil => rw [List.take_nil]; rfl
      | cons c rest =>
        cases most - digits.length with
        | zero => rfl
        | succ left =>
          rw [List.take_succ_cons, List.takeWhile_cons_of_neg]
          rw [hother c rfl]
          exact Bool.false_ne_true
  have hread : ((digits ++ rest).take most).takeWhile Char.isDigit = digits := by
    rw [List.take_append, List.take_of_length_le hmost, List.takeWhile_append_of_pos hdigits, hstop,
      List.append_nil]
  rw [readNumber?, hread, if_neg (Nat.not_lt.mpr hleast), List.drop_left]

/-- A padded number is read to its end, if no digit comes after it or no more digits are allowed. -/
theorem readNumber?_padded {least most : Nat} {rest : List Char} (hwidth : 0 < width)
    (h : n < 10 ^ width) (hleast : least ≤ width) (hmost : width ≤ most)
    (hrest : width = most ∨ ∀ c ∈ rest.head?, c.isDigit = false) :
    readNumber? least most ((padded width n).toList ++ rest) = some (n, rest) := by
  have hlength := length_padded hwidth h
  rw [readNumber?_append (fun c ↦ isDigit_of_mem_padded) (by rwa [hlength]) (by rwa [hlength])
    (by rwa [hlength]), foldl_padded]

/-- A written number begins with a digit. -/
theorem exists_padded_eq_cons (hwidth : 0 < width) (h : n < 10 ^ width) :
    ∃ c rest, (padded width n).toList = c :: rest ∧ c.isDigit = true := by
  have hlength := length_padded hwidth h
  rcases hpadded : (padded width n).toList with _ | ⟨c, rest⟩
  · rw [hpadded] at hlength
    exact absurd hlength (Nat.ne_of_lt hwidth)
  · exact ⟨c, rest, rfl, isDigit_of_mem_padded (hpadded ▸ List.mem_cons_self)⟩

theorem dropWhile_padded (hwidth : 0 < width) (h : n < 10 ^ width) (rest : List Char) :
    ((padded width n).toList ++ rest).dropWhile Text.isBlank = (padded width n).toList ++ rest := by
  obtain ⟨c, others, hpadded, hc⟩ := exists_padded_eq_cons hwidth h
  have hblank : Text.isBlank c = false :=
    Text.Canonical.isBlank_of_mem_unchanged (Text.Canonical.mem_unchanged_of_isDigit hc)
  rw [hpadded, List.cons_append, List.dropWhile_cons_of_neg]
  rw [hblank]
  exact Bool.false_ne_true

/-- Numbers of two digits are read in the loose form as well. -/
theorem readLoose?_padded (h : n < 100) (rest : List Char) :
    readLoose? 2 ((padded 2 n).toList ++ rest) = some (n, rest) := by
  rw [readLoose?, dropWhile_padded (by decide) h,
    readNumber?_padded (by decide) h (by decide) (Nat.le_refl 2) (.inl rfl)]

/-- A year of four digits has no sign. -/
theorem readYear?_padded (h : n < 10000) (rest : List Char) :
    readYear? ((padded 4 n).toList ++ rest) = some ((n : Int), rest) := by
  obtain ⟨c, others, hpadded, hc⟩ := @exists_padded_eq_cons 4 _ (by decide) h
  have hread : readNumber? 1 4 ((padded 4 n).toList ++ rest) = some (n, rest) :=
    readNumber?_padded (by decide) h (by decide) (Nat.le_refl 4) (.inl rfl)
  rw [readYear?, dropWhile_padded (by decide) h]
  rw [hpadded, List.cons_append] at hread ⊢
  split
  · rename_i hsign
    cases hsign
    cases hc
  · rename_i hsign
    cases hsign
    cases hc
  · rw [hread]
    rfl

end Numbers

/-- The time of a day: less than a day of seconds, and a fraction of less than two seconds. -/
structure IsClock (t : Timestamp) : Prop where
  second_lt : t.second < 86400
  nano_lt : t.nano < 2000000000

/-- Whether the year of an instant has at most four digits and no sign. -/
def HasPlainYear (t : Timestamp) : Prop := 0 ≤ t.date.1 ∧ t.date.1 ≤ 9999

/-- The second in which an instant is shown. A fraction of a second or more is a leap second at the
end of a minute, which is kept as one, and shows as the next second anywhere else. -/
def wholeSecond (t : Timestamp) : Timestamp :=
  if t.second % 60 = 59 then { t with nano := t.nano / 1000000000 * 1000000000 }
  else { t with second := t.second + t.nano / 1000000000, nano := 0 }

/-- A reader goes on with what its first part has read. -/
theorem bind_eq_of_some {α β : Type} {x : Option α} {a : α} {f : α → Option β} {r : Option β}
    (hx : x = some a) (hf : f a = r) : (x >>= f) = r := by
  rw [hx]
  exact hf

/-- The parts that an instant is written in, and nanoseconds. -/
def shownFields (t : Timestamp) (nano : Nat) : Fields where
  year := t.date.1
  month := t.date.2.1
  day := t.date.2.2
  hour := t.second / 3600
  minute := t.second / 60 % 60
  second := t.second % 60 + t.nano / 1000000000
  nano

/-- The parts of a clock make its whole second, and the nanoseconds are added to it. -/
theorem ofFields?_clock {t : Timestamp} (hclock : t.IsClock) {year : Int} {month day : Nat}
    (hday : dayOf? year month day = some t.day) (nano : Nat) :
    ofFields? {
      year, month, day
      hour := t.second / 3600
      minute := t.second / 60 % 60
      second := t.second % 60 + t.nano / 1000000000
      nano } = some { t.wholeSecond with nano := t.wholeSecond.nano + nano } := by
  obtain ⟨hsecond, hnano⟩ := hclock
  have hbounds : ¬(23 < t.second / 3600 ∨ 59 < t.second / 60 % 60 ∨
      60 < t.second % 60 + t.nano / 1000000000) := by
    omega
  rw [ofFields?]
  refine bind_eq_of_some hday ?_
  rw [if_neg hbounds]
  refine congrArg some ?_
  by_cases hend : t.second % 60 = 59
  · rcases Nat.lt_or_ge t.nano 1000000000 with hfraction | hleap
    · have hzero : t.nano / 1000000000 = 0 := Nat.div_eq_of_lt hfraction
      simp only [wholeSecond, hend, hzero, mk.injEq, true_and, reduceIte, Nat.reduceAdd,
        Nat.reduceEqDiff]
      omega
    · have hone : t.nano / 1000000000 = 1 := by omega
      simp only [wholeSecond, hend, hone, mk.injEq, true_and, reduceIte, Nat.reduceAdd]
      omega
  · have hshown : t.second % 60 + t.nano / 1000000000 ≠ 60 := by omega
    simp only [wholeSecond, hend, hshown, mk.injEq, true_and, reduceIte]
    omega

/-- The fields of a moment give the moment, with the fraction that comes with them. -/
theorem ofFields?_shownFields {t : Timestamp} (hyear : t.HasPlainYear) (hclock : t.IsClock)
    (nano : Nat) :
    ofFields? (t.shownFields nano) =
      some { t.wholeSecond with nano := t.wholeSecond.nano + nano } := by
  obtain ⟨hfirst, hlast⟩ := hyear
  exact ofFields?_clock hclock (dayOf?_date (by omega)) nano

/-- An instant as it is written: date and clock with a text between them, and a text after them. -/
def written (t : Timestamp) (between after : List Char) : List Char :=
  (padded 4 t.date.1.toNat).toList ++ '-' :: ((padded 2 t.date.2.1).toList ++ '-' ::
    ((padded 2 t.date.2.2).toList ++ (between ++ ((padded 2 (t.second / 3600)).toList ++ ':' ::
      ((padded 2 (t.second / 60 % 60)).toList ++ ':' ::
        ((padded 2 (t.second % 60 + t.nano / 1000000000)).toList ++ after))))))

/-- The signs of a written moment, with what stands between its day and its clock and after it. -/
theorem toList_append_eq_written {t : Timestamp} (hyear : t.HasPlainYear) (between after : String) :
    (t.dateText ++ between ++ t.clockText ++ after).toList =
      t.written between.toList after.toList := by
  obtain ⟨hfirst, hlast⟩ := hyear
  have hdash : "-".toList = ['-'] := rfl
  have hcolon : ":".toList = [':'] := rfl
  rw [dateText, clockText, written]
  -- The date is taken apart once, so that the calendar stays closed.
  rcases hdate : t.date with ⟨year, month, day⟩
  rw [hdate] at hfirst hlast
  have habs : year.natAbs = year.toNat := by omega
  have hyearText : yearText year = padded 4 year.toNat := by
    rw [yearText, if_pos ⟨hfirst, hlast⟩, habs]
  simp only [hyearText, String.toList_append, List.append_assoc, hdash, hcolon, List.cons_append,
    List.nil_append]

/-- Every part of a written instant fits its width. -/
theorem IsClock.parts_lt {t : Timestamp} (hclock : t.IsClock) :
    t.second / 3600 < 100 ∧ t.second / 60 % 60 < 100 ∧
      t.second % 60 + t.nano / 1000000000 < 100 := by
  obtain ⟨hsecond, hnano⟩ := hclock
  omega

theorem readChar?_cons (c : Char) (rest : List Char) : readChar? c (c :: rest) = some rest := by
  rw [readChar?, if_pos rfl]

theorem readSpaced?_cons {c : Char} (h : Text.isBlank c = false) (rest : List Char) :
    readSpaced? c (c :: rest) = some rest := by
  rw [readSpaced?, List.dropWhile_cons_of_neg, readChar?_cons]
  rw [h]
  exact Bool.false_ne_true

section Readers

variable {t : Timestamp}

theorem HasPlainYear.toNat_lt (hyear : t.HasPlainYear) : t.date.1.toNat < 10000 := by
  obtain ⟨hfirst, hlast⟩ := hyear
  omega

theorem HasPlainYear.readYear? (hyear : t.HasPlainYear) (rest : List Char) :
    readYear? ((padded 4 t.date.1.toNat).toList ++ rest) = some (t.date.1, rest) := by
  rw [readYear?_padded hyear.toNat_lt, Int.toNat_of_nonneg hyear.1]

/-- The strict form wants a zone. -/
theorem readZoned?_written (hyear : t.HasPlainYear) (hclock : t.IsClock) :
    readZoned? (t.written [' '] []) = none := by
  obtain ⟨hmonth, hday⟩ := t.date_lt
  obtain ⟨hhour, hminute, hsecond⟩ := hclock.parts_lt
  have htwo {n : Nat} (h : n < 100) (rest : List Char) :
      readNumber? 2 2 ((padded 2 n).toList ++ rest) = some (n, rest) :=
    readNumber?_padded (by decide) h (Nat.le_refl 2) (Nat.le_refl 2) (.inl rfl)
  have hfour (rest : List Char) :
      readNumber? 4 4 ((padded 4 t.date.1.toNat).toList ++ rest) = some (t.date.1.toNat, rest) :=
    readNumber?_padded (by decide) hyear.toNat_lt (Nat.le_refl 4) (Nat.le_refl 4) (.inl rfl)
  rw [written, List.singleton_append]
  refine bind_eq_of_some (hfour _) ?_
  refine bind_eq_of_some (readChar?_cons '-' _) ?_
  refine bind_eq_of_some (htwo hmonth _) ?_
  refine bind_eq_of_some (readChar?_cons '-' _) ?_
  refine bind_eq_of_some (htwo hday _) ?_
  refine bind_eq_of_some (readChar?_cons ' ' _) ?_
  refine bind_eq_of_some (htwo hhour _) ?_
  refine bind_eq_of_some (readChar?_cons ':' _) ?_
  refine bind_eq_of_some (htwo hminute _) ?_
  refine bind_eq_of_some (readChar?_cons ':' _) ?_
  exact bind_eq_of_some (htwo hsecond []) rfl

/-- A stored text has a space between day and clock, and nothing behind. -/
theorem readLocal?_written (hyear : t.HasPlainYear) (hclock : t.IsClock) :
    readLocal? (fun s ↦ some (s.dropWhile Text.isBlank)) (t.written [' '] []) =
      some t.wholeSecond := by
  obtain ⟨hmonth, hday⟩ := t.date_lt
  obtain ⟨hhour, hminute, hsecond⟩ := hclock.parts_lt
  have hgap (rest : List Char) : (' ' :: ((padded 2 (t.second / 3600)).toList ++ rest)).dropWhile
      Text.isBlank = (padded 2 (t.second / 3600)).toList ++ rest := by
    rw [List.dropWhile_cons_of_pos (by decide), dropWhile_padded (by decide) hhour]
  have hfields := ofFields?_shownFields hyear hclock 0
  rw [written, List.singleton_append]
  refine bind_eq_of_some (hyear.readYear? _) ?_
  refine bind_eq_of_some (readChar?_cons '-' _) ?_
  refine bind_eq_of_some (readLoose?_padded hmonth _) ?_
  refine bind_eq_of_some (readChar?_cons '-' _) ?_
  refine bind_eq_of_some (readLoose?_padded hday _) ?_
  refine bind_eq_of_some (congrArg some (hgap _)) ?_
  refine bind_eq_of_some (readLoose?_padded hhour _) ?_
  refine bind_eq_of_some (readChar?_cons ':' _) ?_
  refine bind_eq_of_some (readLoose?_padded hminute _) ?_
  refine bind_eq_of_some (readChar?_cons ':' _) ?_
  refine bind_eq_of_some (readLoose?_padded hsecond []) ?_
  refine bind_eq_of_some (show readFraction? [] = some (0, []) from rfl) ?_
  exact (if_pos rfl).trans hfields

/-- A text with a blank at neither end is not trimmed. -/
theorem trimBlanks_append {front back : List Char} (hfront : front ≠ [])
    (hfirst : ∀ c ∈ front.head?, Text.isBlank c = false) (hback : back ≠ [])
    (hlast : ∀ c ∈ back, Text.isBlank c = false) :
    Text.trimBlanks (front ++ back) = front ++ back := by
  have hdrop {c : Char} (hc : Text.isBlank c = false) (rest : List Char) :
      (c :: rest).dropWhile Text.isBlank = c :: rest := by
    rw [List.dropWhile_cons_of_neg]
    rw [hc]
    exact Bool.false_ne_true
  obtain ⟨c, others, rfl⟩ := List.exists_cons_of_ne_nil hfront
  obtain ⟨d, before, hreverse⟩ := List.exists_cons_of_ne_nil (List.reverse_ne_nil_iff.mpr hback)
  have hd : Text.isBlank d = false := by
    refine hlast d (List.mem_reverse.mp ?_)
    rw [hreverse]
    exact List.mem_cons_self
  rw [Text.trimBlanks, List.cons_append, hdrop (hfirst c rfl), ← List.cons_append,
    List.reverse_append, hreverse, List.cons_append, hdrop hd, ← List.cons_append, ← hreverse,
    ← List.reverse_append, List.reverse_reverse]

/-- A stored text begins and ends with a digit. -/
theorem trimBlanks_written (hyear : t.HasPlainYear) (hclock : t.IsClock) :
    Text.trimBlanks (t.written [' '] []) = t.written [' '] [] := by
  have hblank {width n : Nat} {c : Char} (hc : c ∈ (padded width n).toList) :
      Text.isBlank c = false :=
    Text.Canonical.isBlank_of_mem_unchanged
      (Text.Canonical.mem_unchanged_of_isDigit (isDigit_of_mem_padded hc))
  obtain ⟨c, others, hpadded, -⟩ :=
    @exists_padded_eq_cons 4 _ (by decide) hyear.toNat_lt
  obtain ⟨d, digits, hsecond, -⟩ :=
    @exists_padded_eq_cons 2 _ (by decide) hclock.parts_lt.2.2
  have hparts : ∃ middle, t.written [' '] [] = ((padded 4 t.date.1.toNat).toList ++ middle) ++
      (padded 2 (t.second % 60 + t.nano / 1000000000)).toList := by
    refine ⟨'-' :: ((padded 2 t.date.2.1).toList ++ '-' :: ((padded 2 t.date.2.2).toList ++
      ([' '] ++ ((padded 2 (t.second / 3600)).toList ++ ':' ::
        ((padded 2 (t.second / 60 % 60)).toList ++ [':']))))), ?_⟩
    simp only [written, List.append_assoc, List.cons_append, List.nil_append, List.append_nil]
  obtain ⟨middle, hparts⟩ := hparts
  rw [hparts]
  refine trimBlanks_append ?_ ?_ ?_ fun c hc ↦ hblank hc
  · rw [hpadded]
    exact List.cons_ne_nil _ _
  · intro c' hc'
    rw [hpadded] at hc'
    cases hc'
    exact hblank (hpadded ▸ List.mem_cons_self)
  · rw [hsecond]
    exact List.cons_ne_nil _ _

/-- The stored form of an instant is read as its whole second. -/
theorem ofText?_storedText (hyear : t.HasPlainYear) (hclock : t.IsClock) :
    ofText? t.storedText = some t.wholeSecond := by
  have hwritten : t.storedText.toList = t.written [' '] [] := by
    rw [storedText, ← String.append_empty (s := t.dateText ++ " " ++ t.clockText),
      toList_append_eq_written hyear]
    rfl
  rw [ofText?, hwritten, trimBlanks_written hyear hclock, readZoned?_written hyear hclock,
    readLocal?_written hyear hclock]
  rfl

/-- A fraction of some digits is read in nanoseconds. -/
theorem readFraction?_padded {width n scale : Nat} {rest : List Char} (hwidth : 0 < width)
    (hnine : width ≤ 9) (hscale : 10 ^ (9 - width) = scale) (h : n < 10 ^ width)
    (hrest : ∀ c ∈ rest.head?, c.isDigit = false) :
    readFraction? ('.' :: ((padded width n).toList ++ rest)) = some (n * scale, rest) := by
  have hread : readNumber? 1 9 ((padded width n).toList ++ rest) = some (n, rest) :=
    readNumber?_padded hwidth h hwidth hnine (.inr hrest)
  have hdrop : rest.dropWhile Char.isDigit = rest := by
    cases rest with
    | nil => rfl
    | cons c rest =>
      rw [List.dropWhile_cons_of_neg]
      rw [hrest c rfl]
      exact Bool.false_ne_true
  simp only [readFraction?, Option.bind_eq_bind, hread, Option.bind_some, List.length_append,
    length_padded hwidth h, Nat.add_sub_cancel, hdrop]
  rw [show Nat.pow 10 (9 - width) = scale from hscale]
  rfl

/-- A fraction is written with as many digits as it needs. -/
theorem readFraction?_fractionText {nano : Nat} (h : nano < 1000000000) :
    readFraction? ((fractionText nano).toList ++ ['Z']) = some (nano, ['Z']) := by
  have hzone : ∀ c ∈ ['Z'].head?, c.isDigit = false := by
    simp
  have hread {width n : Nat} (scale : Nat) (hwidth : 0 < width) (hnine : width ≤ 9)
      (hscale : 10 ^ (9 - width) = scale) (hn : n < 10 ^ width) (hnano : n * scale = nano) :
      readFraction? (("." ++ padded width n).toList ++ ['Z']) = some (nano, ['Z']) := by
    have hpoint : ".".toList = ['.'] := rfl
    rw [String.toList_append, List.append_assoc, hpoint, List.singleton_append, ← hnano]
    exact readFraction?_padded hwidth hnine hscale hn hzone
  unfold fractionText
  split
  · rename_i hnano
    rw [hnano]
    rfl
  · split
    · rename_i hmilli
      refine hread 1000000 (by decide) (by decide) rfl ?_ ?_ <;> omega
    · split
      · rename_i hmicro
        refine hread 1000 (by decide) (by decide) rfl ?_ ?_ <;> omega
      · exact hread 1 (by decide) (by decide) rfl h (Nat.mul_one nano)

theorem minusSeconds_zero (hsecond : t.second < 86400) : t.minusSeconds 0 = t := by
  have hdiv : ((t.second : Int) - 0).fdiv 86400 = 0 := by
    rw [Int.fdiv_eq_ediv_of_nonneg _ (by decide)]
    omega
  have hmod : (((t.second : Int) - 0).fmod 86400).toNat = t.second := by
    rw [Int.fmod_eq_emod_of_nonneg _ (by decide)]
    omega
  rw [minusSeconds]
  simp only [hdiv, hmod, Int.add_zero]

/-- The form with a zone is read as the instant. -/
theorem ofZonedText?_universalText (hyear : t.HasPlainYear) (hclock : t.IsClock)
    (hleap : 1000000000 ≤ t.nano → t.second % 60 = 59) :
    ofZonedText? t.universalText = some t := by
  obtain ⟨hmonth, hday⟩ := t.date_lt
  obtain ⟨hhour, hminute, hsecond⟩ := hclock.parts_lt
  have hfraction := @readFraction?_fractionText (t.nano % 1000000000) (Nat.mod_lt _ (by decide))
  have hdash (rest : List Char) : readSpaced? '-' ('-' :: rest) = some rest :=
    readSpaced?_cons (by decide) rest
  have hcolon (rest : List Char) : readSpaced? ':' (':' :: rest) = some rest :=
    readSpaced?_cons (by decide) rest
  have hzone : readLooseOffset? (['Z'].dropWhile Text.isBlank) = some (0, []) := by
    rw [List.dropWhile_cons_of_neg (by decide)]
    rfl
  have hwritten : t.universalText.toList =
      t.written ['T'] ((fractionText (t.nano % 1000000000)).toList ++ ['Z']) := by
    rw [universalText, String.append_assoc, toList_append_eq_written hyear, String.toList_append]
    rfl
  have hwhole : { t.wholeSecond with nano := t.wholeSecond.nano + t.nano % 1000000000 } = t := by
    unfold wholeSecond
    split
    · simp only [Nat.div_add_mod']
    · rename_i hend
      have hfractional : t.nano < 1000000000 := Nat.lt_of_not_le fun h ↦ hend (hleap h)
      simp only [Nat.div_eq_of_lt hfractional, Nat.mod_eq_of_lt hfractional, Nat.add_zero,
        Nat.zero_add]
  have hfields := ofFields?_shownFields hyear hclock (t.nano % 1000000000)
  rw [hwhole] at hfields
  rw [ofZonedText?, hwritten, written, List.singleton_append]
  refine bind_eq_of_some (hyear.readYear? _) ?_
  refine bind_eq_of_some (hdash _) ?_
  refine bind_eq_of_some (readLoose?_padded hmonth _) ?_
  refine bind_eq_of_some (hdash _) ?_
  refine bind_eq_of_some (readLoose?_padded hday _) ?_
  refine bind_eq_of_some (readChar?_cons 'T' _) ?_
  refine bind_eq_of_some (readLoose?_padded hhour _) ?_
  refine bind_eq_of_some (hcolon _) ?_
  refine bind_eq_of_some (readLoose?_padded hminute _) ?_
  refine bind_eq_of_some (hcolon _) ?_
  refine bind_eq_of_some (readLoose?_padded hsecond _) ?_
  refine bind_eq_of_some hfraction ?_
  refine bind_eq_of_some hzone ?_
  refine (if_pos rfl).trans (bind_eq_of_some hfields ?_)
  rw [minusSeconds_zero hclock.second_lt]
  rfl

end Readers

end Barometer.Timestamp
