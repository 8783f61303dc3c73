import Barometer.Indicator.Reader
import Barometer.Proofs.Compilation.Conditions
import Barometer.Proofs.Store.Columns
import Barometer.Proofs.Store.Pattern

/-!
# Texts and the cells that hold them

Cells hold texts in canonical form, and none at all for a text without words. An equality of the
column with the text, as it was written, is then true of the cell, and an inequality is false,
whichever way the text makes them ask: for a missing value, for the same text, or for a match, when
there is a wildcard in it. A match lowers the text of the cell, which is in lower case already, and
a text is an instance of itself.
-/

namespace Barometer

open Sql (Expr)
open Store (Affinity Value Row Truth Context Level Header)

/-- What a cell holds for a text. -/
def Store.Value.stored (t : String) : Value := (Text.Canonical.text? t).elim .null .text

/-- Two operands under a key, as an indicator writes a comparison. -/
def pairNode (sign : String) (left right : Json) : Json := .object [(sign, .array [left, right])]

/-- A reference to a column, as an indicator writes it. -/
def columnNode (column : String) : Json := .object [("col", .string column)]

/-- A comparison of a column with a text, as an indicator writes it. -/
def comparisonNode (sign column t : String) : Json :=
  .object [(sign, .array [.object [("col", .string column)], .string t])]

namespace Store

theorem Value.compare_self_text (s : String) : Value.compare (.text s) (.text s) = .eq := by
  rw [Value.compare, Value.key, Value.Key.compare, Value.orderOf, if_neg (String.lt_irrefl s),
    if_pos rfl]

/-- Only beside the number of a row are texts converted. -/
theorem Affinity.convert_text {affinity : Affinity} (h : affinity ≠ .number) (s : String) :
    affinity.convert (.text s) = .text s := by
  cases affinity with
  | number => exact absurd rfl h
  | _ => rfl

theorem Affinity.joint_free (affinity : Affinity) : affinity.joint .free = affinity := by
  cases affinity <;> rfl

/-- A canonical text matches itself as a pattern. -/
theorem likeTruth_self {t form : String} (hform : Text.Canonical.text? t = some form)
    (negated : Bool) : likeTruth negated (.text form) (.text form) = some !negated := by
  simp only [likeTruth, Value.lowered?, Value.text?, Text.Canonical.lower_of_text?_eq_some hform,
    Pattern.textMatches_self]
  cases negated <;> rfl

end Store

theorem Sql.Relation.truth_text (relation : Sql.Relation) (s : String) :
    relation.truth (.text s) (.text s) = some (relation.admits .eq) := by
  rw [truth, Value.compare_self_text]
  rfl

namespace Comparison

variable {ctx : Context} {left : Operand} {t : String}

/-- A value that is what a text is stored as is equal to the text. -/
theorem truth_of_value_eq_stored {op : Comparison} (hop : op.isEquality = true)
    (hvalue : left.value ctx = .stored t)
    (haffinity : Expression.affinity ctx.headers left ≠ .number)
    (hwildcard : left.hasWildcard = false) :
    op.truth ctx left (.literal (.text t)) = some (op == .eq) := by
  have hsign : (op == .eq) = !(op == .ne) := by
    cases op <;> first | rfl | cases hop
  have habsent : Expression.isAbsent (.literal (.text t) : Operand) =
      (Text.Canonical.text? t).isNone := rfl
  unfold truth
  rw [habsent]
  cases hform : Text.Canonical.text? t with
  | none =>
    rw [hvalue, Value.stored, hform]
    cases op <;> rfl
  | some form =>
    rw [Value.stored, hform, Option.elim_some] at hvalue
    have hequality : equalityTruth ctx op left (.literal (.text t)) = some (op == .eq) := by
      unfold equalityTruth
      split
      · have hpattern : Operand.pattern ctx (.literal (.text t)) = .text form := by
          rw [Operand.pattern, Scalar.canonicalText?, hform]
          rfl
        rw [Operand.matchTruth, hvalue, hpattern]
        exact (Store.likeTruth_self hform _).trans (congrArg some hsign.symm)
      · rw [if_neg (by simp [hwildcard])]
        have hright : Operand.value ctx (.literal (.text t)) = .text form := by
          rw [Operand.value, Expression.value, Scalar.value, hform]
          rfl
        have hjoint : (Expression.affinity ctx.headers left).joint .free ≠ .number := by
          rwa [Affinity.joint_free]
        calc
          op.plainTruth ctx left (.literal (.text t)) =
              op.relation.truth (.text form) (.text form) := by
            simp only [plainTruth, hvalue, hright, Expression.affinity, Scalar.affinity,
              Affinity.convert_text hjoint]
          _ = some (op.relation.admits .eq) := Sql.Relation.truth_text op.relation form
          _ = some (op == .eq) := by cases op <;> first | rfl | cases hop
    cases op <;> first | exact hequality | cases hop

end Comparison

/-- A name with a letter in it is not blank. -/
theorem isBlankName_of_letter {name : String}
    (h : (name.toList.any fun c ↦ decide (65 ≤ c.toNat ∧ c.toNat ≤ 122)) = true) :
    isBlankName name = false := by
  obtain ⟨c, hc, hletter⟩ := List.any_eq_true.mp h
  obtain ⟨hlow, hhigh⟩ := of_decide_eq_true hletter
  exact List.all_eq_false.mpr ⟨c, hc, by simp [Text.isBlank_eq_false_of_letter hlow hhigh]⟩

namespace Operand

/-- What is no array and no object is read as a literal. -/
theorem read_of_ofJson? {node : Json} {value : Scalar} (h : Scalar.ofJson? node = some value) :
    read node = .ok (.literal value) := by
  have hobject : ∀ members, node ≠ .object members := by
    rintro members rfl
    cases h
  have harray : ∀ items, node ≠ .array items := by
    rintro items rfl
    cases h
  rw [read, Expression.read.eq_3 _ _ hobject harray, h]

/-- A reference is read as it is written; a blank name is refused. -/
theorem read_columnNode (column : String) :
    read (columnNode column) =
      if isBlankName column then .error (Defect.misshapen .columnReference (columnNode column))
      else .ok (.column column) := by
  have hagg : Json.get? [("col", .string column)] "agg" = none := rfl
  have hcol : Json.get? [("col", .string column)] "col" = some (.string column) := rfl
  rw [columnNode, read, Expression.read]
  cases hname : isBlankName column <;>
    simp [hagg, hcol, Expression.columnName, hname, Except.map]

end Operand

namespace Condition

/-- A comparison under its sign is read from its two operands. -/
theorem read_pairNode {sign : String} {op : Comparison} (hkey : junctionOfKey? sign = none)
    (hop : Comparison.ofName? sign = some op) {left right : Json} {a b : Operand}
    (hleft : Operand.read left = .ok a) (hright : Operand.read right = .ok b) :
    read (pairNode sign left right) = .ok (.compare op a b) := by
  rw [pairNode, read, hkey]
  simp [readComparison, hop, hleft, hright, bind, Except.bind, pure, Except.pure]

theorem read_likeNode {left right : Json} {a b : Operand} (hleft : Operand.read left = .ok a)
    (hright : Operand.read right = .ok b) :
    read (pairNode "like" left right) = .ok (.compare .like a b) :=
  read_pairNode (by decide +kernel) (by decide +kernel) hleft hright

theorem read_notLikeNode {left right : Json} {a b : Operand} (hleft : Operand.read left = .ok a)
    (hright : Operand.read right = .ok b) :
    read (pairNode "not_like" left right) = .ok (.compare .notLike a b) :=
  read_pairNode (by decide +kernel) (by decide +kernel) hleft hright

/-- A comparison is read as it is written; a blank name is refused. -/
theorem read_comparisonNode {sign : String} {op : Comparison}
    (hkey : junctionOfKey? sign = none) (hop : Comparison.ofName? sign = some op)
    (column t : String) :
    read (comparisonNode sign column t) =
      if isBlankName column then
        .error (Defect.misshapen .columnReference (.object [("col", .string column)]))
      else .ok (.compare op (.column column) (.literal (.text t))) := by
  have hleft : Operand.read (.object [("col", .string column)]) =
      if isBlankName column then
        .error (Defect.misshapen .columnReference (.object [("col", .string column)]))
      else .ok (.column column) :=
    Operand.read_columnNode column
  have hright : Operand.read (.string t) = .ok (.literal (.text t)) :=
    Operand.read_of_ofJson? rfl
  rw [comparisonNode, read, hkey]
  cases hname : isBlankName column <;>
    simp [readComparison, hop, hleft, hright, hname, bind, Except.bind, pure, Except.pure]

end Condition

/-- A text is written as a text or as a missing value, which are no names. -/
theorem Scalar.toSql_text (t : String) :
    ∃ v : Sql.Literal, (Scalar.text t).toSql = .literal v ∧ v.reading? = none := by
  rw [toSql]
  cases Text.Canonical.text? t with
  | none => exact ⟨.null, rfl, rfl⟩
  | some form => exact ⟨.text form, rfl, rfl⟩

/-- As a pattern a text is the literal that it is as an operand. -/
theorem Operand.toPattern_text (t : String) :
    Operand.toPattern (.literal (.text t)) = (Scalar.text t).toSql := by
  rw [toPattern, Scalar.canonicalText?, Scalar.toSql]
  cases Text.Canonical.text? t <;> rfl

/-- A comparison of a column with a text names the column and nothing else. -/
theorem Comparison.isAdmitted_toSql (op : Comparison) (column t : String) (headers : List Header) :
    (op.toSql (.column column) (.literal (.text t))).isAdmitted headers =
      Sql.isKnown headers (.ofColumn none column) := by
  obtain ⟨v, htext, hreading⟩ := Scalar.toSql_text t
  have hnull (negated : Bool) : (Expr.isNull (columnExpr column) negated).isAdmitted headers =
      Sql.isKnown headers (.ofColumn none column) := by
    simp [Expr.isAdmitted, columnExpr, Expr.isScalar, Expr.readings]
  have hlike (negated : Bool) :
      (Expr.like (columnExpr column) (.literal v) negated).isAdmitted headers =
        Sql.isKnown headers (.ofColumn none column) := by
    simp [Expr.isAdmitted, columnExpr, Expr.isScalar, Expr.readings, hreading]
  have hplain : (Expr.compare op.relation (columnExpr column) (.literal v)).isAdmitted headers =
      Sql.isKnown headers (.ofColumn none column) := by
    simp [Expr.isAdmitted, columnExpr, Expr.isScalar, Expr.readings, hreading]
  have hleft : Operand.toSql (.column column) = columnExpr column := rfl
  have hright : Operand.toSql (.literal (.text t)) = .literal v := htext
  unfold toSql
  rw [Operand.toPattern_text, htext, hleft, hright]
  split
  · exact hnull _
  · split
    · exact hlike false
    · exact hlike true
    · split
      · exact hlike _
      · have hwildcard : ¬ (op.isEquality &&
            Expression.hasWildcard (.column column : Operand)) = true := by
          simp [Expression.hasWildcard]
        rw [if_neg hwildcard]
        exact hplain

/-- An indicator about one table compiles to a query over that table. -/
theorem Indicator.source_toQuery {options : Options} {indicator : Indicator} {query : Sql.Query}
    (h : indicator.toQuery options = .ok query) {name : String}
    (htables : indicator.subject.tables = [name]) :
    query.source = some name ∧ query.joins = [] := by
  obtain ⟨first, -, hsources, -, hsource, -⟩ := fields_of_toQuery h
  rw [htables] at hsources
  obtain ⟨hfirst, hjoins⟩ := Prod.mk.inj (Except.ok.inj hsources)
  exact ⟨hsource.trans (congrArg some hfirst.symm), hjoins.symm⟩

section Found

variable {table : Store.Table} {column t : String} {row : Row}

/-- On a row whose cell holds a text an equality with the text is true, and an inequality false. -/
theorem Comparison.truth_of_cell {op : Comparison} (hop : op.isEquality = true)
    (htable : table.Sound) (hname : Store.namesColumn column = true) (hrow : row ∈ table.rows)
    (hcell : Store.Database.cell? table row column = some (.stored t)) (select : List Sql.Item)
    (group : List Row) (number : Int) (shown : Row) (outer : Context) :
    op.truth (table.level select group row number shown :: outer) (.column column)
      (.literal (.text t)) = some (op == .eq) :=
  truth_of_value_eq_stored hop
    (Store.read_column htable hname hrow hcell select group number shown outer)
    (Store.affinity_column htable hname hcell select (Context.headers outer)) rfl

/-- In a table whose columns have different names, a row whose cell holds a text satisfies an
equality of the column with that text, as it was written, and no inequality: in conditions on every
row, and in what a query over the table keeps. -/
theorem stored_text_satisfies_equality (htable : table.Sound) (hblank : isBlankName column = false)
    (hname : Store.namesColumn column = true) (t : String) :
    ∃ equal unequal, Condition.read (comparisonNode "=" column t) = .ok equal ∧
      Condition.read (comparisonNode "!=" column t) = .ok unequal ∧
      (∀ row ∈ table.rows, Store.Database.cell? table row column = some (.stored t) →
        ∀ select group number shown outer,
          let ctx : Context := table.level select group row number shown :: outer
          equal.toSql.isAdmitted ctx.headers = true ∧ equal.toSql.value ctx = .ofBool true ∧
            unequal.toSql.isAdmitted ctx.headers = true ∧
              unequal.toSql.value ctx = .ofBool false) ∧
      ∀ (indicator : Indicator) (options : Options) (query : Sql.Query) (db : Store.Database)
        (name : String) (outer : Context) (rows : List Row),
        indicator.subject.tables = [name] → indicator.toQuery options = .ok query →
        db.source? name = some table → query.joinedRows db outer = .ok rows →
        ∀ joined ∈ rows, Store.Database.cell? table joined column = some (.stored t) →
          (indicator.subject.conditions = equal →
            query.conditions.all (Expr.holds (query.onRow db outer joined)) = true) ∧
          (indicator.subject.conditions = unequal →
            query.conditions.all (Expr.holds (query.onRow db outer joined)) = false) := by
  have hequal := Condition.read_comparisonNode (by decide)
    (by decide : Comparison.ofName? "=" = some .eq) column t
  have hunequal := Condition.read_comparisonNode (by decide)
    (by decide : Comparison.ofName? "!=" = some .ne) column t
  rw [hblank] at hequal hunequal
  refine ⟨_, _, hequal, hunequal, ?_, ?_⟩
  · intro row hrow hcell select group number shown outer ctx
    have hknown : Sql.isKnown ctx.headers (.ofColumn none column) = true :=
      Store.isKnown_column htable hname hcell select (Context.headers outer)
    have htruth (op : Comparison) (hop : op.isEquality = true) :=
      Comparison.truth_of_cell hop htable hname hrow hcell select group number shown outer
    refine ⟨?_, ?_, ?_, ?_⟩
    · exact (Comparison.isAdmitted_toSql .eq column t ctx.headers).trans hknown
    · rw [Condition.value_toSql]
      exact congrArg Value.ofTruth (htruth .eq rfl)
    · exact (Comparison.isAdmitted_toSql .ne column t ctx.headers).trans hknown
    · rw [Condition.value_toSql]
      exact congrArg Value.ofTruth (htruth .ne rfl)
  · intro indicator options query db name outer rows htables hquery hsource hrows joined hjoined
      hcell
    obtain ⟨hfirst, hjoins⟩ := indicator.source_toQuery hquery htables
    obtain ⟨row, hrow, select, number, shown, rfl, hlevel⟩ :=
      Store.exists_level_of_mem_joinedRows hfirst hjoins hsource hrows hjoined
    rw [Store.cell?_append htable hrow] at hcell
    have htruth (op : Comparison) (hop : op.isEquality = true) :=
      Comparison.truth_of_cell hop htable hname hrow hcell select [] number shown outer
    have hkept (op : Comparison) (hop : op.isEquality = true)
        (h : indicator.subject.conditions = .compare op (.column column) (.literal (.text t))) :
        query.conditions.all (Expr.holds (query.onRow db outer (row ++ .int number :: shown))) =
          (op == .eq) := by
      rw [Indicator.all_conditions_toQuery hquery, hjoins, hlevel, h, Condition.truth,
        htruth op hop]
      simp
    exact ⟨hkept .eq rfl, hkept .ne rfl⟩

end Found

namespace Answers

def table : Store.Table where
  name := "enquete"
  columns := ["id", "reponse"]
  rows := [[.int 1, .text "oui 100%"], [.int 2, .null]]

theorem sound_table : table.Sound where
  columns := by decide
  rows := by decide

/-- Blanks next to each other are stored as one. -/
theorem stored_share : Value.stored "Oui  100%" = .text "oui 100%" := by
  have hform : Text.Canonical.text? "Oui  100%" = some "oui 100%" :=
    Text.Canonical.text?_of_isPlain (by decide) (by decide) (by decide)
  rw [Value.stored, hform]
  rfl

/-- An answer with a wildcard, found as it was written. -/
theorem stored_text_satisfies_equality_share :
    ∃ equal unequal, Condition.read (comparisonNode "=" "reponse" "Oui  100%") = .ok equal ∧
      Condition.read (comparisonNode "!=" "reponse" "Oui  100%") = .ok unequal ∧
      ∀ outer,
        let ctx : Context := table.level [] [] [.int 1, .text "oui 100%"] 1 [] :: outer
        equal.toSql.value ctx = .ofBool true ∧ unequal.toSql.value ctx = .ofBool false := by
  obtain ⟨equal, unequal, hequal, hunequal, hrows, -⟩ :=
    stored_text_satisfies_equality sound_table (by decide : isBlankName "reponse" = false)
      (by decide) "Oui  100%"
  refine ⟨equal, unequal, hequal, hunequal, fun outer ↦ ?_⟩
  have hcell : Store.Database.cell? table [.int 1, .text "oui 100%"] "reponse" =
      some (.stored "Oui  100%") := by
    rw [stored_share]
    rfl
  obtain ⟨-, htrue, -, hfalse⟩ :=
    hrows _ List.mem_cons_self hcell [] [] 1 [] outer
  exact ⟨htrue, hfalse⟩

/-- A table whose columns have names that mean something else where they are written. -/
def misread : Store.Table where
  name := "enquete"
  columns := ["1", "*", "code.naf", "order", " "]
  rows := [[.text "oui", .text "oui", .text "oui", .text "oui", .text "oui"]]

theorem stored_oui : Value.stored "oui" = .text "oui" := by
  have hform : Text.Canonical.text? "oui" = some "oui" :=
    Text.Canonical.text?_of_isPlain (by decide) (by decide) (by decide)
  rw [Value.stored, hform]
  rfl

/-- The number one is not the text, the star is no value, what stands before a point is read as a
table, some words belong to the language, and a blank name is refused. -/
theorem not_stored_text_satisfies_equality :
    misread.Sound ∧
      (∀ column ∈ ["1", "*", "code.naf", "order"], ∃ equal,
        Condition.read (comparisonNode "=" column "oui") = .ok equal ∧
          ∀ row ∈ misread.rows,
            Store.Database.cell? misread row column = some (.stored "oui") ∧
              ¬ (equal.toSql.isAdmitted [misread.header] = true ∧
                equal.toSql.value [misread.level [] [] row 1 []] = .ofBool true)) ∧
      ∃ defect, Condition.read (comparisonNode "=" " " "oui") = .error defect := by
  have hcells : ∀ column ∈ ["1", "*", "code.naf", "order"], ∀ row ∈ misread.rows,
      Store.Database.cell? misread row column = some (.stored "oui") := by
    intro column hcolumn row hrow
    rw [stored_oui, List.mem_singleton.mp hrow]
    simp only [List.mem_cons, List.not_mem_nil, or_false] at hcolumn
    rcases hcolumn with rfl | rfl | rfl | rfl <;> rfl
  have hread := Condition.read_comparisonNode (by decide)
    (by decide : Comparison.ofName? "=" = some .eq)
  have hblank : ∀ column ∈ ["1", "*", "code.naf", "order"], isBlankName column = false := by
    decide
  have hunknown : ∀ column ∈ ["*", "code.naf", "order"],
      Sql.isKnown [misread.header] (.ofColumn none column) = false := by
    decide
  have hone : ∀ row ∈ misread.rows, Comparison.truth [misread.level [] [] row 1 []] .eq
      (.column "1") (.literal (.text "oui")) = some false := by
    decide
  refine ⟨⟨by decide, by decide⟩, fun column hcolumn ↦ ?_, ?_⟩
  · have hname := Bool.eq_false_iff.mp (hblank column hcolumn)
    refine ⟨_, (hread column "oui").trans (if_neg hname),
      fun row hrow ↦ ⟨hcells column hcolumn row hrow, ?_⟩⟩
    rintro ⟨hadmitted, hvalue⟩
    rcases List.mem_cons.mp hcolumn with rfl | hcolumn
    · rw [Condition.value_toSql, Condition.truth, hone row hrow] at hvalue
      cases hvalue
    · have hknown := (Comparison.isAdmitted_toSql .eq column "oui" _).symm.trans hadmitted
      rw [hunknown column hcolumn] at hknown
      cases hknown
  · exact ⟨_, (hread " " "oui").trans (if_pos (by decide))⟩

end Answers

end Barometer
