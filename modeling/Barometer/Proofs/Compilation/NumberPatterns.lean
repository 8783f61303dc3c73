import Barometer.Proofs.Compilation.Sides
import Barometer.Proofs.Store.Numbers
import Mathlib.Data.Bool.AllAny

/-!
# Numbers as patterns

A number that is a pattern stands for its JSON text, and the number in a cell is matched by its
plain text. Integers are written alike in both, and so are integers that are stored as reals, as
long as they are exact. A real literal finds a real only if it shows a fraction: in JSON a whole
number keeps a zero behind the point, and very small numbers have an exponent.
-/

namespace Barometer

open Decimal (Binary shortest)
open Store (Context Level Row Table Value)

/-- Of the characters of numbers none is a wildcard or has another case. -/
theorem Store.Pattern.textMatches_iff_eq {pattern s : String}
    (hpattern : ∀ c ∈ pattern.toList, c ∈ Text.Canonical.unchanged)
    (hs : ∀ c ∈ s.toList, c ∈ Text.Canonical.unchanged) :
    textMatches pattern s = true ↔ pattern = s := by
  have hplain : ∀ c ∈ Text.Canonical.unchanged,
      c ≠ '%' ∧ c ≠ '_' ∧ (c.toNat != 0) = true ∧ c.toLower = c := by
    intro c hc
    have hbounds := Text.Canonical.bounds_of_mem_unchanged hc
    refine ⟨?_, ?_, bne_iff_ne.mpr (by omega), Text.Canonical.toLower_of_mem_unchanged hc⟩
    · rintro rfl
      exact absurd hbounds (by decide)
    · rintro rfl
      exact absurd hbounds (by decide)
  have hvisible {t : String} (ht : ∀ c ∈ t.toList, c ∈ Text.Canonical.unchanged) :
      visible t = t.toList :=
    List.takeWhile_eq_self_iff.mpr fun c hc ↦ (hplain c (ht c hc)).2.2.1
  have hlower {t : String} (ht : ∀ c ∈ t.toList, c ∈ Text.Canonical.unchanged) :
      t.toList.map Char.toLower = t.toList := by
    rw [List.map_congr_left fun c hc ↦ (hplain c (ht c hc)).2.2.2, List.map_id']
  rw [textMatches, hvisible hpattern, hvisible hs, accepts_iff_map_toLower_eq fun c hc ↦
    ⟨(hplain c (hpattern c hc)).1, (hplain c (hpattern c hc)).2.1⟩, hlower hpattern, hlower hs,
    String.toList_inj]

namespace Scalar

/-- Whether a cell holds the number that a literal stands for. -/
def IsIn (literal : Scalar) (cell : Value) : Prop :=
  match literal with
  | .int n => cell.compare (.int n) = .eq
  | .real x => x.isFinite = true ∧ cell.compare (.real x) = .eq
  | _ => False

/-- Whether a literal has the same text as the number in a cell. -/
def WrittenAlike (literal : Scalar) (cell : Value) : Prop :=
  match literal, cell with
  | .int _, .int _ => True
  | .int n, .real y => Decimal.plainText y = toString n
  | .real x, .real _ => ∃ b, Binary.ofFloat? x = some b ∧ Decimal.Layout.ShowsFraction (shortest b)
  | _, _ => False

theorem plainText_of_ofFloat? {y : Float} {b : Binary} (hb : Binary.ofFloat? y = some b) :
    Decimal.plainText y = Decimal.Layout.plain.signed b.negative (shortest b) := by
  rw [Decimal.plainText, Decimal.format?, hb]
  rfl

/-- No integer is written with a point or an exponent. -/
theorem signed_json_ne_toString (negative : Bool) (b : Binary) (m : Int) :
    Decimal.Layout.json.signed negative (shortest b) ≠ toString m := by
  intro h
  obtain ⟨c, hc, hmem⟩ :=
    Decimal.Layout.exists_mem_text_json (Decimal.shortest_digits_ne_nil b)
  have hint : c ∈ (toString m).toList := by
    rw [← h, Decimal.Layout.signed, String.toList_ofList]
    exact List.mem_append_right _ hmem
  have hnone : ∀ c ∈ ['.', 'e'], c.isDigit = false ∧ c ≠ '-' :=
    List.all_iff_forall_prop.mp (by decide)
  rcases Decimal.mem_toString_int hint with hdigit | hminus
  · rw [(hnone c hc).1] at hdigit
    cases hdigit
  · exact (hnone c hc).2 hminus

/-- The texts of equal reals: of different zeros neither shows a fraction. -/
theorem signed_json_eq_plain_iff {b b' : Binary} (hb : b.IsDouble) (hb' : b'.IsDouble)
    (h : b.signedUnits = b'.signedUnits) :
    Decimal.Layout.json.signed b.negative (shortest b) =
        Decimal.Layout.plain.signed b'.negative (shortest b') ↔
      Decimal.Layout.ShowsFraction (shortest b) := by
  by_cases hzero : b.mantissa = 0
  · have hdigits {b : Binary} (hb : b.mantissa = 0) :
        shortest b = { digits := ['0'], exponent := 0 } := if_pos hb
    have hne : ∀ negative negative' : Bool,
        Decimal.Layout.json.signed negative { digits := ['0'], exponent := 0 } ≠
          Decimal.Layout.plain.signed negative' { digits := ['0'], exponent := 0 } := by
      decide
    have hzero' : b'.mantissa = 0 := by
      rwa [← Binary.signedUnits_eq_zero_iff, ← h, Binary.signedUnits_eq_zero_iff]
    rw [hdigits hzero, hdigits hzero']
    exact iff_of_false (hne _ _) fun hfraction ↦ absurd hfraction.2 (by decide)
  · obtain rfl := Binary.eq_of_signedUnits_eq hb hb' h hzero
    rw [← String.toList_inj, Decimal.Layout.signed, Decimal.Layout.signed, String.toList_ofList,
      String.toList_ofList, List.append_cancel_left_eq]
    exact Decimal.Layout.text_json_eq_plain_iff (fun c ↦ Decimal.isDigit_of_mem_shortest)
      (Decimal.shortest_digits_ne_nil b)

/-- An integer is compared with a cell as a text of digits. -/
theorem IsIn.exists_texts_int {n : Int} {cell : Value} (h : (Scalar.int n).IsIn cell) :
    ∃ s, cell.lowered? = some s ∧
      (Store.Pattern.textMatches (toString n) s = true ↔ (Scalar.int n).WrittenAlike cell) := by
  obtain ⟨u, hu⟩ := Value.exists_units?_of_compare_eq (w := .int n) rfl h
  cases cell with
  | int m =>
    obtain rfl := (Value.compare_int_eq_iff m n).mp h
    exact ⟨_, rfl, iff_of_true (Store.Pattern.textMatches_self _) trivial⟩
  | real y =>
    obtain ⟨b, hb, -⟩ := Option.map_eq_some_iff.mp hu
    refine ⟨_, rfl, ?_⟩
    rw [Store.Pattern.textMatches_iff_eq (fun c ↦ mem_unchanged_toString)
      fun c hc ↦ mem_unchanged_signed (plainText_of_ofFloat? hb ▸ hc)]
    exact eq_comm
  | null => cases hu
  | text s => cases hu
  | blob octets => cases hu

/-- A real is compared in the layout of patterns, while the cell is lowered in another one. -/
theorem IsIn.exists_texts_real {x : Float} {b : Binary} (hb : Binary.ofFloat? x = some b)
    {cell : Value} (h : cell.compare (.real x) = .eq) :
    ∃ s, cell.lowered? = some s ∧
      (Store.Pattern.textMatches (Decimal.Layout.json.signed b.negative (shortest b)) s = true ↔
        (Scalar.real x).WrittenAlike cell) := by
  have hunits := Value.units?_real hb
  obtain ⟨u, hu⟩ := Value.exists_units?_of_compare_eq hunits h
  cases cell with
  | int m =>
    refine ⟨_, rfl, ?_⟩
    rw [Store.Pattern.textMatches_iff_eq (fun c ↦ mem_unchanged_signed)
      fun c ↦ mem_unchanged_toString]
    exact iff_of_false (signed_json_ne_toString b.negative b m) id
  | real y =>
    obtain ⟨b', hb', rfl⟩ := Option.map_eq_some_iff.mp hu
    have hwritten : (Scalar.real x).WrittenAlike (.real y) ↔
        Decimal.Layout.ShowsFraction (shortest b) := by
      simp [WrittenAlike, hb]
    refine ⟨_, rfl, ?_⟩
    rw [plainText_of_ofFloat? hb', hwritten,
      Store.Pattern.textMatches_iff_eq (fun c ↦ mem_unchanged_signed)
        fun c ↦ mem_unchanged_signed]
    exact signed_json_eq_plain_iff (Binary.isDouble_of_ofFloat? hb)
      (Binary.isDouble_of_ofFloat? hb') ((Value.compare_eq_iff_units hu hunits).mp h).symm
  | null => cases hu
  | text s => cases hu
  | blob octets => cases hu

/-- A number that a cell holds has a text there, and one as a literal; both are alike or not. -/
theorem IsIn.exists_texts {literal : Scalar} {cell : Value} (h : literal.IsIn cell) :
    ∃ p s, literal.canonicalText? = some p ∧ cell.lowered? = some s ∧
      (Store.Pattern.textMatches p s = true ↔ literal.WrittenAlike cell) := by
  cases literal with
  | int n =>
    obtain ⟨s, hs, hmatches⟩ := IsIn.exists_texts_int h
    exact ⟨_, s, canonicalText?_int n, hs, hmatches⟩
  | real x =>
    obtain ⟨hfinite, hcompare⟩ := h
    obtain ⟨b, hb⟩ := Option.isSome_iff_exists.mp ((Binary.ofFloat?_isSome x).trans hfinite)
    obtain ⟨s, hs, hmatches⟩ := IsIn.exists_texts_real hb hcompare
    have hform : (Scalar.real x).canonicalText? =
        some (Decimal.Layout.json.signed b.negative (shortest b)) := by
      rw [canonicalText?_real, Decimal.format?, hb]
      rfl
    exact ⟨_, s, hform, hs, hmatches⟩
  | null => cases h
  | bool b => cases h
  | text s => cases h

theorem isIn_real {x : Float} {b : Binary} (hb : Binary.ofFloat? x = some b) :
    (Scalar.real x).IsIn (.real x) := by
  have hunits := Value.units?_real hb
  refine ⟨?_, (Value.compare_eq_iff_units hunits hunits).mpr rfl⟩
  rw [← Binary.ofFloat?_isSome, hb]
  rfl

theorem IsIn.isAbsent {literal : Scalar} {cell : Value} (h : literal.IsIn cell) :
    literal.isAbsent = false := by
  cases literal with
  | int n => rfl
  | real x => rfl
  | _ => cases h

/-- An integer has the text of an equal real unless it is too large to be exact. -/
theorem IsIn.writtenAlike_of_int {n : Int} {cell : Value} (h : (Scalar.int n).IsIn cell)
    (hsmall : cell = .int n ∨ n ≠ 0 ∧ n.natAbs < 2 ^ 53) : (Scalar.int n).WrittenAlike cell := by
  rcases hsmall with rfl | ⟨hne, hlt⟩
  · trivial
  · cases cell with
    | int m => trivial
    | real y => exact Value.plainText_of_compare_int h hne hlt
    | null => cases h
    | text s => cases h
    | blob octets => cases h

end Scalar

namespace Comparison

variable {ctx : Context} {column : String} {literal : Scalar} {cell : Value}

/-- Against an operand that is not absent the two operators are a match and its negation. -/
theorem truth_like (ctx : Context) (left : Operand) {right : Operand}
    (hright : right.isAbsent = false) :
    like.truth ctx left right = left.matchTruth ctx right false ∧
      notLike.truth ctx left right = left.matchTruth ctx right true := by
  unfold truth
  rw [if_neg (Bool.eq_false_iff.mp hright), if_neg (Bool.eq_false_iff.mp hright)]
  exact ⟨rfl, rfl⟩

/-- A column that holds the number of a literal matches it exactly if both have the same text. -/
theorem truth_like_of_isIn (hread : ctx.read (.ofColumn none column) = cell)
    (h : literal.IsIn cell) :
    (like.truth ctx (.column column) (.literal literal) = some true ↔
        literal.WrittenAlike cell) ∧
      (notLike.truth ctx (.column column) (.literal literal) = some true ↔
        ¬ literal.WrittenAlike cell) := by
  obtain ⟨p, s, hp, hs, hmatches⟩ := h.exists_texts
  have hpattern : Operand.pattern ctx (.literal literal) = .text p := by
    rw [Operand.pattern, hp]
    rfl
  have hvalue : Operand.value ctx (.column column) = cell := hread
  have htruth (negated : Bool) :
      Operand.matchTruth ctx (.column column) (.literal literal) negated =
        some (Store.Pattern.textMatches p s != negated) := by
    rw [Operand.matchTruth, hvalue, hpattern, Store.likeTruth, hs]
    rfl
  have hright : Expression.isAbsent (.literal literal : Operand) = false := h.isAbsent
  obtain ⟨hlike, hnotLike⟩ := truth_like ctx (.column column) hright
  rw [hlike, hnotLike, htruth, htruth, ← hmatches]
  simp

/-- A match of a column with a number names the column and nothing else. -/
theorem isAdmitted_like_of_isIn (h : literal.IsIn cell) (column : String)
    (headers : List Store.Header) :
    (like.toSql (.column column) (.literal literal)).isAdmitted headers =
        Sql.isKnown headers (.ofColumn none column) ∧
      (notLike.toSql (.column column) (.literal literal)).isAdmitted headers =
        Sql.isKnown headers (.ofColumn none column) := by
  obtain ⟨p, s, hp, -, -⟩ := h.exists_texts
  have hpattern : Operand.toPattern (.literal literal) = textExpr p := by
    rw [Operand.toPattern, hp]
  have hadmitted (negated : Bool) :
      (Sql.Expr.like (columnExpr column) (textExpr p) negated).isAdmitted headers =
        Sql.isKnown headers (.ofColumn none column) := by
    have htext : (textExpr p).isAdmitted headers = true := rfl
    rw [Sql.Expr.isAdmitted_like, htext, Bool.and_true]
    simp [Sql.Expr.isAdmitted, columnExpr, Sql.Expr.isScalar, Sql.Expr.readings]
  have hright : ¬ Expression.isAbsent (.literal literal : Operand) = true :=
    Bool.eq_false_iff.mp h.isAbsent
  unfold toSql
  rw [if_neg hright, if_neg hright, hpattern]
  exact ⟨hadmitted false, hadmitted true⟩

end Comparison

/-- A number that is a pattern finds the cells that hold the number exactly if it has the same text
there, and is not found by a negated match then. Integers that are stored as integers have, and
those below `2 ^ 53` that are stored as reals have, while a real literal has the text of an equal
real only if it shows a fraction. -/
theorem number_matches_itself_iff {table : Table} (htable : table.Sound) {column : String}
    (hblank : isBlankName column = false) (hname : Store.namesColumn column = true)
    (m : Json.Number) :
    ∃ like notLike,
      Condition.read (pairNode "like" (columnNode column) (.number m)) = .ok like ∧
      Condition.read (pairNode "not_like" (columnNode column) (.number m)) = .ok notLike ∧
      ∀ row ∈ table.rows, ∀ cell, Store.Database.cell? table row column = some cell →
        (Scalar.ofNumber m).IsIn cell → ∀ select group number shown outer,
          let ctx : Context := table.level select group row number shown :: outer
          like.toSql.isAdmitted ctx.headers = true ∧
            notLike.toSql.isAdmitted ctx.headers = true ∧
            (like.toSql.value ctx = .ofBool true ↔ (Scalar.ofNumber m).WrittenAlike cell) ∧
            (notLike.toSql.value ctx = .ofBool true ↔ ¬ (Scalar.ofNumber m).WrittenAlike cell) ∧
            ∀ n, Scalar.ofNumber m = .int n → cell = .int n ∨ n ≠ 0 ∧ n.natAbs < 2 ^ 53 →
              like.toSql.value ctx = .ofBool true := by
  have hcolumn : Operand.read (columnNode column) = .ok (.column column) :=
    (Operand.read_columnNode column).trans (if_neg (by simp [hblank]))
  have hnumber : Operand.read (.number m) = .ok (.literal (Scalar.ofNumber m)) :=
    Operand.read_of_ofJson? rfl
  refine ⟨_, _, Condition.read_likeNode hcolumn hnumber,
    Condition.read_notLikeNode hcolumn hnumber, ?_⟩
  intro row hrow cell hcell hin select group number shown outer ctx
  have hread : ctx.read (.ofColumn none column) = cell :=
    Store.read_column htable hname hrow hcell select group number shown outer
  have hknown : Sql.isKnown ctx.headers (.ofColumn none column) = true :=
    Store.isKnown_column htable hname hcell select (Context.headers outer)
  obtain ⟨hadmitted, hadmitted'⟩ :=
    Comparison.isAdmitted_like_of_isIn hin column ctx.headers
  obtain ⟨hlike, hnotLike⟩ := Comparison.truth_like_of_isIn hread hin
  have hselects : (Condition.toSql (.compare .like (.column column)
      (.literal (Scalar.ofNumber m)))).value ctx = .ofBool true ↔
        (Scalar.ofNumber m).WrittenAlike cell := by
    rw [Condition.value_toSql, ← hlike]
    exact Value.ofTruth_eq_ofBool_iff
  refine ⟨hadmitted.trans hknown, hadmitted'.trans hknown, hselects, ?_, fun n hn hsmall ↦ ?_⟩
  · rw [Condition.value_toSql, ← hnotLike]
    exact Value.ofTruth_eq_ofBool_iff
  · rw [hselects, hn]
    rw [hn] at hin
    exact hin.writtenAlike_of_int hsmall

namespace Marks

/-- Marks, one of them a whole number. -/
def marks : Table where
  name := "notes"
  columns := ["id", "note"]
  rows := [[.int 1, .real 15], [.int 2, .real 12.5]]

theorem sound_marks : marks.Sound where
  columns := by decide
  rows := by decide

theorem isName_note : isBlankName "note" = false ∧ Store.namesColumn "note" = true :=
  ⟨isBlankName_of_letter (by decide), by decide +kernel⟩

theorem ofFloat?_whole : Binary.ofFloat? 15 =
    some { negative := false, mantissa := 8444249301319680, exponent := -49 } := by
  decide

theorem ofFloat?_half : Binary.ofFloat? 12.5 =
    some { negative := false, mantissa := 7036874417766400, exponent := -49 } := by
  decide

/-- A whole mark is stored as a real. -/
theorem isIn_whole : (Scalar.int 15).IsIn (.real 15) := by
  have hcompare : Value.compare (.real 15) (.int 15) = .eq := by decide
  exact hcompare

/-- A mark with a fraction is found as a pattern, and so is a whole mark as an integer. -/
theorem number_matches_itself_iff_marks :
    (∃ like,
      Condition.read (pairNode "like" (columnNode "note") (.number (.real 12.5))) = .ok like ∧
      ∀ outer, like.toSql.value (marks.level [] [] [.int 2, .real 12.5] 2 [] :: outer) =
        .ofBool true) ∧
    ∃ like,
      Condition.read (pairNode "like" (columnNode "note") (.number (.integer 15))) = .ok like ∧
      ∀ outer, like.toSql.value (marks.level [] [] [.int 1, .real 15] 1 [] :: outer) =
        .ofBool true := by
  refine ⟨?_, ?_⟩
  · obtain ⟨like, notLike, hlike, -, hrows⟩ :=
      number_matches_itself_iff sound_marks isName_note.1 isName_note.2 (.real 12.5)
    refine ⟨like, hlike, fun outer ↦ ?_⟩
    obtain ⟨-, -, hiff, -⟩ := hrows [.int 2, .real 12.5] (.tail _ (.head _)) (.real 12.5) rfl
      (Scalar.isIn_real ofFloat?_half) [] [] 2 [] outer
    exact hiff.mpr ⟨_, ofFloat?_half, by decide⟩
  · obtain ⟨like, notLike, hlike, -, hrows⟩ :=
      number_matches_itself_iff sound_marks isName_note.1 isName_note.2 (.integer 15)
    refine ⟨like, hlike, fun outer ↦ ?_⟩
    obtain ⟨-, -, -, -, hint⟩ := hrows [.int 1, .real 15] (.head _) (.real 15) rfl
      isIn_whole [] [] 1 [] outer
    exact hint 15 rfl (.inr (by decide))

/-- A whole mark is not found by its own real literal. -/
theorem not_number_matches_itself :
    ¬ ∀ (table : Table) (column : String) (m : Json.Number) (like notLike : Condition),
      table.Sound → isBlankName column = false → Store.namesColumn column = true →
      Condition.read (pairNode "like" (columnNode column) (.number m)) = .ok like →
      Condition.read (pairNode "not_like" (columnNode column) (.number m)) = .ok notLike →
      ∀ row ∈ table.rows, ∀ cell, Store.Database.cell? table row column = some cell →
        (Scalar.ofNumber m).IsIn cell →
          like.toSql.holds [table.level [] [] row 1 []] = true ∧
            notLike.toSql.holds [table.level [] [] row 1 []] = false := by
  intro hall
  have hcolumn : Operand.read (columnNode "note") = .ok (.column "note") :=
    (Operand.read_columnNode "note").trans (if_neg (Bool.eq_false_iff.mp isName_note.1))
  have hnumber : Operand.read (.number (.real 15)) = .ok (.literal (.real 15)) :=
    Operand.read_of_ofJson? rfl
  obtain ⟨hlike, -⟩ := hall marks "note" (.real 15) _ _ sound_marks isName_note.1 isName_note.2
    (Condition.read_likeNode hcolumn hnumber) (Condition.read_notLikeNode hcolumn hnumber)
    [.int 1, .real 15] (.head _) (.real 15) rfl (Scalar.isIn_real ofFloat?_whole)
  have hmisses : (Condition.compare .like (.column "note") (.literal (.real 15))).toSql.holds
      [marks.level [] [] [.int 1, .real 15] 1 []] = false := by
    decide
  rw [hmisses] at hlike
  cases hlike

end Marks

end Barometer
