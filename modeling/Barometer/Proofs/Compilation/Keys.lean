import Barometer.Proofs.Compilation.Groupings
import Barometer.Proofs.Store.Groups

/-!
# What rows are grouped by

Rows are grouped by the values of the columns that are no aggregates. A whole number is not a value
there but a place in the select list: what is shown at that place counts instead. The column `1` is
written as the digit and read alike, and an operation on one operand is read as its operand is.
-/

namespace Barometer

open Store (Context Row Value Database)

/-- The place in the select list that an expression is read as among keys. -/
def Expression.place? {α : Type} : Expression α → Option Int
  | .literal (.int n) => if n.natAbs ≤ 2147483647 then some n else none
  | .column name => if name = "1" then some 1 else none
  | .operation _ [e] => e.place?
  | _ => none

/-- An expression is read as a position if it is an integer and nothing else. -/
theorem Expression.position?_toSql {α : Type} {leaf : α → Sql.Expr}
    (hleaf : ∀ a, (leaf a).position? = none) (e : Expression α) :
    (toSql leaf e).position? = e.place? := by
  match e with
  | .literal .null => rfl
  | .literal (.int n) => rfl
  | .literal (.real x) =>
    rw [toSql, Scalar.toSql]
    split <;> rfl
  | .literal (.bool b) => rfl
  | .literal (.text s) =>
    rw [toSql, Scalar.toSql]
    cases Text.Canonical.text? s <;> rfl
  | .column name => rfl
  | .operation op [] => rfl
  | .operation op [arg] => exact position?_toSql hleaf arg
  | .operation op (first :: second :: rest) => rfl
  | .aggregate a => exact hleaf a

namespace ColumnBody

/-- The place that a column is grouped by, if it is read as one. -/
def place? : ColumnBody → Option Int
  | .groupBy e => e.place?
  | _ => none

/-- The value of a column on a row: that of its expression, or the label of the first case that is
met. Aggregates have none. -/
def value (ctx : Context) : ColumnBody → Value
  | .groupBy e => Operand.value ctx e
  | .cases arms =>
    match arms.find? fun arm ↦ arm.condition.truth ctx == some true with
    | some arm => .text arm.label
    | none => .null
  | .aggregation _ => .null

/-- A column that has no key cannot be read as a place. -/
theorem place?_of_key?_eq_none {body : ColumnBody} (h : body.key? = none) : body.place? = none := by
  cases body with
  | aggregation measure => rfl
  | _ => cases h

/-- The key of a column is a place exactly if the column is one. -/
theorem position?_of_key? {body : ColumnBody} {key : Sql.Expr} (h : body.key? = some key) :
    key.position? = body.place? := by
  cases body with
  | groupBy e =>
    cases h
    exact Expression.position?_toSql (fun a ↦ a.elim) e
  | cases arms =>
    cases h
    rfl
  | aggregation measure => cases h

/-- The first arm whose condition is true gives its label. -/
theorem value_cases (ctx : Context) (arms : List CaseArm) :
    (Sql.Expr.cases (arms.map CaseArm.toSql) none).value ctx = (cases arms).value ctx := by
  rw [Sql.Expr.value]
  induction arms with
  | nil => rfl
  | cons arm rest ih =>
    have hholds : (arm.condition.toSql.value ctx).holds =
        (arm.condition.truth ctx == some true) := by
      rw [Condition.value_toSql, Value.holds_ofTruth]
    rw [List.map_cons, CaseArm.toSql, Sql.Expr.caseValue, hholds, ih, value, value,
      List.find?_cons]
    split <;> rename_i hmet
    · rw [hmet]
      rfl
    · rw [Bool.eq_false_iff.mpr hmet]

/-- A key has the value of its column on every row. -/
theorem value_of_key? {body : ColumnBody} {key : Sql.Expr} (h : body.key? = some key)
    (ctx : Context) : key.value ctx = body.value ctx := by
  cases body with
  | groupBy e =>
    cases h
    exact Operand.value_toSql ctx e
  | cases arms =>
    cases h
    exact value_cases ctx arms
  | aggregation measure => cases h

end ColumnBody

namespace Indicator

variable {options : Options} {indicator : Indicator} {query : Sql.Query}

/-- The keys that are read as positions are those of the columns that are read as places. -/
theorem positions_groupBy (h : indicator.toQuery options = .ok query) :
    query.groupBy.filterMap Sql.Expr.position? =
      indicator.columns.filterMap fun column ↦ column.body.place? := by
  rw [groupBy_eq_filterMap h, List.filterMap_filterMap]
  apply List.filterMap_congr
  intro column _
  cases hkey : column.body.key? with
  | none => exact (ColumnBody.place?_of_key?_eq_none hkey).symm
  | some key => exact ColumnBody.position?_of_key? hkey

/-- What a column groups a row by: its own value, or what is shown at the place that it is read
as. -/
def groupValue (db : Database) (query : Sql.Query) (body : ColumnBody) (row : Row) : Value :=
  match body.place? with
  | some place => query.shownAt db row place
  | none => body.value (query.onRow db [] row)

/-- Whether the columns that are no aggregates have the same values for two rows. -/
def Alike (indicator : Indicator) (value : ColumnBody → Row → Value) (a b : Row) : Prop :=
  ∀ column ∈ indicator.columns, column.body.isGrouping = true →
    (value column.body a).compare (value column.body b) = .eq

theorem keyValue_of_key? (db : Database) (query : Sql.Query) {body : ColumnBody} {key : Sql.Expr}
    (h : body.key? = some key) (row : Row) :
    query.keyValue db [] row key = groupValue db query body row := by
  rw [Sql.Query.keyValue, ColumnBody.position?_of_key? h, groupValue]
  cases body.place? with
  | none => exact ColumnBody.value_of_key? h _
  | some place => rfl

/-- Rows agree in all keys if they agree in all grouping columns. -/
theorem forall_keys_iff_alike (h : indicator.toQuery options = .ok query) (db : Database)
    (a b : Row) :
    (∀ key ∈ query.groupBy,
      (query.keyValue db [] a key).compare (query.keyValue db [] b key) = .eq) ↔
      indicator.Alike (groupValue db query) a b := by
  rw [groupBy_eq_filterMap h]
  constructor
  · intro hkeys column hcolumn hgrouping
    obtain ⟨key, hkey⟩ := ColumnBody.isGrouping_iff.mp hgrouping
    have hequal := hkeys key (List.mem_filterMap.mpr ⟨column, hcolumn, hkey⟩)
    rwa [keyValue_of_key? db query hkey, keyValue_of_key? db query hkey] at hequal
  · intro halike key hkey
    obtain ⟨column, hcolumn, hkey⟩ := List.mem_filterMap.mp hkey
    rw [keyValue_of_key? db query hkey, keyValue_of_key? db query hkey]
    exact halike column hcolumn (ColumnBody.isGrouping_iff.mpr ⟨key, hkey⟩)

theorem Alike.symm {value : ColumnBody → Row → Value} {a b : Row}
    (h : indicator.Alike value a b) : indicator.Alike value b a :=
  fun column hcolumn hgrouping ↦ Std.OrientedCmp.eq_symm (h column hcolumn hgrouping)

/-- The rows of a group are alike, and those of two groups are not. -/
theorem areGrouped_groups (h : indicator.toQuery options = .ok query) (db : Database)
    (kept : List Row) :
    Store.AreGrouped (indicator.Alike (groupValue db query)) kept (query.groups db [] kept) :=
  (query.areGrouped_groups db [] kept).congr (forall_keys_iff_alike h db)

/-- At a place counts what the select list shows for the row. -/
theorem exists_groupValue_of_place? (h : indicator.toQuery options = .ok query) {db : Database}
    (htables : ∀ table ∈ db.tables, table.Sound) {test : Context → Bool} {kept : List Row}
    (hkept : query.keptRows db [] test = .ok kept) {column : Column}
    (hcolumn : column ∈ indicator.columns) {place : Int} (hplace : column.body.place? = some place)
    {row : Row} (hrow : row ∈ kept) :
    ∃ shown, Sql.Item.evalAll db (query.onTables db [] (row.take (query.header db).length))
        query.select = .ok shown ∧
      groupValue db query column.body row = shown.getD (place - 1).toNat .null := by
  have hpositions : place ∈ query.groupBy.filterMap Sql.Expr.position? := by
    rw [positions_groupBy h]
    exact List.mem_filterMap.mpr ⟨column, hcolumn, hplace⟩
  obtain ⟨key, hkey, hposition⟩ := List.mem_filterMap.mp hpositions
  have hreads : query.readsResults db = true := by
    rw [Sql.Query.readsResults, Sql.usesResults, Bool.or_eq_true]
    exact .inr (List.any_eq_true.mpr ⟨key, hkey, by rw [hposition]; rfl⟩)
  refine ⟨_, Sql.Query.evalAll_onTables hreads htables hkept hrow, ?_⟩
  rw [groupValue, hplace]
  rfl

/-- Rows are grouped by the values of the columns that are no aggregates, as long as none of these
columns is read as a place. A whole number of 31 bits is, and so is the column `1`; what is shown at
that place counts then. Names are read as those of titles if the tables have no such columns. -/
theorem groups_by_values (h : indicator.toQuery options = .ok query)
    (hgrouping : ∃ column ∈ indicator.columns, column.body.isGrouping = true) (db : Database) :
    query.groupBy.filterMap Sql.Expr.position? =
      indicator.columns.filterMap (fun column ↦ column.body.place?) ∧
    (query.eval db [] = do
      let kept ← query.keptRows db [] fun ctx ↦ query.conditions.all (Sql.Expr.holds ctx)
      (query.groups db [] kept).mapM (query.showGroup db [])) ∧
    (∀ kept,
      Store.AreGrouped (indicator.Alike (groupValue db query)) kept (query.groups db [] kept)) ∧
    ((∀ column ∈ indicator.columns, column.body.place? = none) →
      ∀ kept, ∀ a ∈ kept, ∀ b ∈ kept,
        ((∃ group ∈ query.groups db [] kept, a ∈ group ∧ b ∈ group) ↔
          indicator.Alike (fun body row ↦ body.value (query.onRow db [] row)) a b)) ∧
    (∀ column ∈ indicator.columns, ∀ key, column.body.key? = some key →
      Sql.titledPlaces (query.header db) query.select key = [] → ∀ row,
        column.body.value (query.onRow db [] row) = column.body.value (query.onTables db [] row)) ∧
    ((∀ table ∈ db.tables, table.Sound) →
      ∀ test kept, query.keptRows db [] test = .ok kept → ∀ row ∈ kept,
        ∀ column ∈ indicator.columns, ∀ place, column.body.place? = some place →
          ∃ shown, Sql.Item.evalAll db (query.onTables db [] (row.take (query.header db).length))
              query.select = .ok shown ∧
            groupValue db query column.body row = shown.getD (place - 1).toNat .null) := by
  have hgroupBy : query.groupBy ≠ [] := (groupBy_ne_nil_iff h).mpr hgrouping
  refine ⟨positions_groupBy h, query.eval_of_groupBy db [] hgroupBy, areGrouped_groups h db,
    fun hplaces kept a ha b hb ↦ ?_, fun column _ key hkey htitles row ↦ ?_,
    fun htables test kept hkept row hrow column hcolumn place hplace ↦
      exists_groupValue_of_place? h htables hkept hcolumn hplace hrow⟩
  · have hvalues : indicator.Alike (groupValue db query) a b ↔
        indicator.Alike (fun body row ↦ body.value (query.onRow db [] row)) a b := by
      apply forall₂_congr
      intro column hcolumn
      rw [groupValue, groupValue, hplaces column hcolumn]
    rw [← hvalues]
    exact (areGrouped_groups h db kept).exists_group_iff (fun _ _ ↦ Alike.symm) ha hb
  · rw [← ColumnBody.value_of_key? hkey, ← ColumnBody.value_of_key? hkey]
    exact Sql.Query.value_onRow htitles row

end Indicator

namespace Sessions

/-- Marks of schools, by the town and by a session that is written as a number. -/
def lycees : Store.Table where
  name := "lycees"
  columns := ["ville", "note"]
  rows := [[.text "paris", .int 1], [.text "lyon", .int 2], [.text "paris", .int 3]]

def db : Database := { tables := [lycees] }

def subject : Subject := { tables := ["lycees"], conditions := .empty }

def highest : Aggregation :=
  { statistic := .max, column := some "note", condition := .empty, subject := none }

def byTown : Indicator where
  subject := subject
  columns :=
    [{ title := "Ville", body := .groupBy (.column "ville") },
      { title := "Note", body := .aggregation (.aggregate highest) }]

/-- The first and the last row are in one group, the second one is in another. -/
theorem groups_by_values_byTown :
    ∃ query, byTown.toQuery .default = .ok query ∧
      query.groupBy.filterMap Sql.Expr.position? = [] ∧
      query.keptRows db [] (fun _ ↦ true) = .ok lycees.numberedRows ∧
      (∃ group ∈ query.groups db [] lycees.numberedRows,
        [.text "paris", .int 1, .int 1] ∈ group ∧ [.text "paris", .int 3, .int 3] ∈ group) ∧
      ¬ ∃ group ∈ query.groups db [] lycees.numberedRows,
        [.text "paris", .int 1, .int 1] ∈ group ∧ [.text "lyon", .int 2, .int 2] ∈ group := by
  have h : byTown.toQuery .default = .ok _ := rfl
  have hgrouping : ∃ column ∈ byTown.columns, column.body.isGrouping = true :=
    ⟨_, List.mem_cons_self, rfl⟩
  obtain ⟨hpositions, -, -, hvalues, -⟩ := Indicator.groups_by_values h hgrouping db
  have hplaces : ∀ column ∈ byTown.columns, column.body.place? = none := by decide
  have hgroups := hvalues hplaces lycees.numberedRows
  have hfirst : [.text "paris", .int 1, .int 1] ∈ lycees.numberedRows := .head _
  have hsecond : [.text "lyon", .int 2, .int 2] ∈ lycees.numberedRows := .tail _ (.head _)
  have hthird : [.text "paris", .int 3, .int 3] ∈ lycees.numberedRows := .tail _ (.tail _ (.head _))
  refine ⟨_, h, hpositions, rfl, (hgroups _ hfirst _ hthird).mpr ?_, fun hsame ↦ ?_⟩
  · intro column hcolumn hgrouping
    rcases List.mem_cons.mp hcolumn with rfl | hcolumn
    · rfl
    · cases List.mem_singleton.mp hcolumn
      cases hgrouping
  · have halike := (hgroups _ hfirst _ hsecond).mp hsame _ List.mem_cons_self rfl
    cases halike

def bySession : Indicator where
  subject := subject
  columns :=
    [{ title := "Session", body := .groupBy (.literal (.int 2)) },
      { title := "Ville", body := .aggregation (.column "ville") },
      { title := "Note", body := .aggregation (.aggregate highest) }]

/-- The session is the same for all rows, but they are grouped by the second column. -/
theorem not_groups_by_values :
    ¬ ∀ (indicator : Indicator) (options : Options) (query : Sql.Query) (db : Database),
      indicator.toQuery options = .ok query →
      (∃ column ∈ indicator.columns, column.body.isGrouping = true) →
      ∀ kept, query.keptRows db [] (fun ctx ↦ query.conditions.all (Sql.Expr.holds ctx)) =
          .ok kept → ∀ a ∈ kept, ∀ b ∈ kept,
        ((∃ group ∈ query.groups db [] kept, a ∈ group ∧ b ∈ group) ↔
          indicator.Alike (fun body row ↦ body.value (query.onRow db [] row)) a b) := by
  intro hall
  have h : bySession.toQuery .default = .ok _ := rfl
  have hgroups := hall bySession .default _ db h ⟨_, List.mem_cons_self, rfl⟩ _ rfl
  have hsame := (hgroups _ (.head _) _ (.tail _ (.head _))).mpr fun column hcolumn hgrouping ↦ by
    have haggregates : ∀ column ∈ bySession.columns.tail, column.body.isGrouping = false := by
      decide
    rcases List.mem_cons.mp hcolumn with rfl | hcolumn
    · rfl
    · exact absurd hgrouping (Bool.eq_false_iff.mp (haggregates column hcolumn))
  obtain ⟨group, hgroup, hfirst, hsecond⟩ := hsame
  have halike := (Indicator.areGrouped_groups h db _).within group hgroup _ hfirst _ hsecond
  cases halike _ List.mem_cons_self rfl

end Sessions

end Barometer
