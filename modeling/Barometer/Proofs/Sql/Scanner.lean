import Barometer.Sql.Query
import Barometer.Text.Quoted
import Mathlib.Data.List.Infix

/-!
# Scanning statements

A scanner goes through a statement from left to right and tells apart what stands between quotes and
what does not. Texts stand between single quotes and names between double quotes; inside of either a
doubled quote is one quote. Nothing else is special to it.
-/

namespace Barometer.Sql

/-- A part of a statement: a character outside of quotes, or a region and the text in it. -/
inductive Piece where
  | plain (c : Char)
  | region (quote : Char) (text : String)
deriving DecidableEq, Repr

namespace Scanner

/-- Where a scanner stands: outside, in a region, or in one behind a quote that either ends it or is
the first of two. The text of the region so far is kept in reverse. -/
inductive Mode where
  | outside
  | inside (quote : Char) (seen : List Char)
  | closing (quote : Char) (seen : List Char)

/-- The region of a text that was read in reverse. -/
def regionOf (quote : Char) (seen : List Char) : Piece :=
  .region quote (String.ofList seen.reverse)

/-- The pieces of the rest of a statement; none if it ends in a region. -/
def scanFrom : Mode → List Char → Option (List Piece)
  | .outside, [] => some []
  | .outside, c :: rest =>
    if Text.isQuote c then scanFrom (.inside c []) rest
    else (scanFrom .outside rest).map (.plain c :: ·)
  | .inside _ _, [] => none
  | .inside quote seen, c :: rest =>
    if c = quote then scanFrom (.closing quote seen) rest
    else scanFrom (.inside quote (c :: seen)) rest
  | .closing quote seen, [] => some [regionOf quote seen]
  | .closing quote seen, c :: rest =>
    if c = quote then scanFrom (.inside quote (c :: seen)) rest
    else if Text.isQuote c then (scanFrom (.inside c []) rest).map (regionOf quote seen :: ·)
    else (scanFrom .outside rest).map fun pieces ↦ regionOf quote seen :: .plain c :: pieces

def scan (statement : String) : Option (List Piece) := scanFrom .outside statement.toList

end Scanner

namespace Piece

/-- What a piece was read from. -/
def written : Piece → List Char
  | .plain c => [c]
  | .region quote text => (enclosed quote text).toList

def region? : Piece → Option (Char × String)
  | .plain _ => none
  | .region quote text => some (quote, text)

end Piece

namespace Scanner

open Piece

theorem doubled_append (quote : Char) (s t : List Char) :
    doubled quote (s ++ t) = doubled quote s ++ doubled quote t := by
  induction s with
  | nil => rfl
  | cons c rest ih =>
    by_cases hc : c = quote
    · simp only [List.cons_append, doubled, if_pos hc, ih]
    · simp only [List.cons_append, doubled, if_neg hc, ih]

theorem doubled_reverse_cons_self (quote : Char) (seen : List Char) :
    doubled quote (quote :: seen).reverse = doubled quote seen.reverse ++ [quote, quote] := by
  rw [List.reverse_cons, doubled_append, doubled, if_pos rfl, doubled]

theorem doubled_reverse_cons {quote c : Char} (hc : c ≠ quote) (seen : List Char) :
    doubled quote (c :: seen).reverse = doubled quote seen.reverse ++ [c] := by
  rw [List.reverse_cons, doubled_append, doubled, if_neg hc, doubled]

theorem written_regionOf (quote : Char) (seen : List Char) :
    (regionOf quote seen).written = quote :: doubled quote seen.reverse ++ [quote] := by
  simp [regionOf, written, enclosed]

/-- What a scanner has read of a region that it has not given out yet. -/
def Mode.pending : Mode → List Char
  | .outside => []
  | .inside quote seen => quote :: doubled quote seen.reverse
  | .closing quote seen => quote :: doubled quote seen.reverse ++ [quote]

/-- A scanner leaves nothing out and adds nothing. -/
theorem written_of_scanFrom {mode : Mode} {s : List Char} {pieces : List Piece}
    (h : scanFrom mode s = some pieces) : pieces.flatMap written = mode.pending ++ s := by
  induction s generalizing mode pieces with
  | nil =>
    cases mode with
    | outside =>
      cases h
      rfl
    | inside quote seen => cases h
    | closing quote seen =>
      cases h
      simp [written_regionOf, Mode.pending]
  | cons c rest ih =>
    cases mode with
    | outside =>
      rw [scanFrom] at h
      split at h
      · rw [ih h]
        simp [Mode.pending, doubled]
      · obtain ⟨later, hlater, rfl⟩ := Option.map_eq_some_iff.mp h
        rw [List.flatMap_cons, ih hlater]
        simp [Mode.pending, written]
    | inside quote seen =>
      rw [scanFrom] at h
      split at h
      · rename_i hc
        rw [ih h, hc]
        simp [Mode.pending]
      · rename_i hc
        rw [ih h, Mode.pending, doubled_reverse_cons hc]
        simp [Mode.pending]
    | closing quote seen =>
      rw [scanFrom] at h
      split at h
      · rename_i hc
        rw [ih h, Mode.pending, hc, doubled_reverse_cons_self]
        simp [Mode.pending]
      · split at h
        · obtain ⟨later, hlater, rfl⟩ := Option.map_eq_some_iff.mp h
          rw [List.flatMap_cons, ih hlater, written_regionOf]
          simp [Mode.pending, doubled]
        · obtain ⟨later, hlater, rfl⟩ := Option.map_eq_some_iff.mp h
          rw [List.flatMap_cons, List.flatMap_cons, ih hlater, written_regionOf]
          simp [Mode.pending, written]

/-- The pieces of a statement, written again, are the statement. -/
theorem written_of_scan {statement : String} {pieces : List Piece}
    (h : scan statement = some pieces) : pieces.flatMap written = statement.toList :=
  written_of_scanFrom h

/-- The text of a region is read back whatever it is. -/
theorem scanFrom_doubled (quote : Char) (s seen rest : List Char) :
    scanFrom (.inside quote seen) (doubled quote s ++ rest) =
      scanFrom (.inside quote (s.reverse ++ seen)) rest := by
  induction s generalizing seen with
  | nil => rfl
  | cons c s ih =>
    by_cases hc : c = quote
    · simp only [doubled, if_pos hc, List.cons_append, scanFrom, ih, List.reverse_cons,
        List.append_assoc, List.nil_append]
    · simp only [doubled, if_neg hc, List.cons_append, scanFrom, ih, List.reverse_cons,
        List.append_assoc, List.nil_append]

/-- A region ends before any character but its own quote. -/
theorem scanFrom_closing {quote : Char} {rest : List Char} (hrest : rest.head? ≠ some quote)
    (seen : List Char) :
    scanFrom (.closing quote seen) rest =
      (scanFrom .outside rest).map (regionOf quote seen :: ·) := by
  cases rest with
  | nil => rfl
  | cons c rest =>
    have hc : c ≠ quote := fun h ↦ hrest (congrArg some h)
    rw [scanFrom, scanFrom, if_neg hc]
    split
    · rfl
    · rw [Option.map_map]
      rfl

/-- A quoted text is one region, with its quotes undoubled. -/
theorem scanFrom_enclosed {quote : Char} (hquote : Text.isQuote quote = true) (text : String)
    {rest : List Char} (hrest : rest.head? ≠ some quote) :
    scanFrom .outside ((enclosed quote text).toList ++ rest) =
      (scanFrom .outside rest).map (.region quote text :: ·) := by
  have hread := scanFrom_doubled quote text.toList [] (quote :: rest)
  rw [List.append_nil, scanFrom, if_pos rfl, scanFrom_closing hrest, regionOf,
    List.reverse_reverse, String.ofList_toList] at hread
  simp only [enclosed, String.toList_ofList, List.cons_append, List.append_assoc,
    List.nil_append, scanFrom, hquote, if_true]
  exact hread

example : scan "SELECT 'it''s';" =
    some ("SELECT ".toList.map .plain ++ [.region '\x27' "it's", .plain ';']) := by
  decide

theorem scanFrom_plain {s : List Char} (hs : ∀ c ∈ s, Text.isQuote c = false) (rest : List Char) :
    scanFrom .outside (s ++ rest) =
      (scanFrom .outside rest).map (s.map .plain ++ ·) := by
  induction s with
  | nil =>
    rw [List.nil_append]
    cases scanFrom .outside rest <;> rfl
  | cons c s ih =>
    have hc : ¬ Text.isQuote c = true := by simp [hs c List.mem_cons_self]
    rw [List.cons_append, scanFrom, if_neg hc, ih fun d hd ↦ hs d (List.mem_cons_of_mem c hd),
      Option.map_map]
    rfl

end Scanner

end Barometer.Sql
