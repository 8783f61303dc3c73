import Barometer.Indicator.Reader
import Barometer.Naming.Resolution
import Barometer.Proofs.Dictionary
import Barometer.Proofs.Indicator.References
import Barometer.Proofs.Outcome
import Barometer.Store.Name

/-!
# Names that are left over

The tables of a query in the names of a catalog are tables of the database: in its sources, in its
joins and in front of the columns that joins compare. A column of an indicator can be written with a
table in front as well. A catalog takes such a name for the name of a column, so that the table in
it is left as it is.
-/

namespace Barometer

/-! ## Names in queries -/

namespace Sql

/-- The table in front of a name that is read as a table and a column. -/
def qualifier? (name : String) : Option String :=
  match Store.partsOf? name with
  | some [table, _] => some table.text
  | _ => none

mutual

/-- Whether the tables that an expression names are of one kind, and the names of its columns of
another; those of its subqueries are among them. -/
def Expr.Names (tables columns : String → Prop) : Expr → Prop
  | .column table name => (∀ t, table = some t → tables t) ∧ columns name
  | .literal _ => True
  | .operation _ args => Expr.NamesAll tables columns args
  | .compare _ left right => left.Names tables columns ∧ right.Names tables columns
  | .isNull operand _ => operand.Names tables columns
  | .like operand pattern _ => operand.Names tables columns ∧ pattern.Names tables columns
  | .junction _ children => Expr.NamesAll tables columns children
  | .call _ args _ => Expr.NamesAll tables columns args
  | .cases arms otherwise =>
    Expr.NamesArms tables columns arms ∧ Expr.NamesOption tables columns otherwise
  | .subquery query => query.Names tables columns
  | .star => True
  | .always => True

def Expr.NamesAll (tables columns : String → Prop) : List Expr → Prop
  | [] => True
  | e :: rest => e.Names tables columns ∧ Expr.NamesAll tables columns rest

def Expr.NamesArms (tables columns : String → Prop) : List (Expr × Expr) → Prop
  | [] => True
  | (condition, value) :: rest =>
    condition.Names tables columns ∧ value.Names tables columns ∧
      Expr.NamesArms tables columns rest

def Expr.NamesOption (tables columns : String → Prop) : Option Expr → Prop
  | none => True
  | some e => e.Names tables columns

def Item.NamesAll (tables columns : String → Prop) : List Item → Prop
  | [] => True
  | { expr, label := _ } :: rest => expr.Names tables columns ∧ Item.NamesAll tables columns rest

def Join.NamesAll (tables columns : String → Prop) : List Join → Prop
  | [] => True
  | { table, on } :: rest =>
    (tables table ∧ Expr.NamesOption tables columns on) ∧ Join.NamesAll tables columns rest

/-- Whether the tables that a query names, in its sources and in front of columns, are of one kind,
and the names of its columns of another. -/
def Query.Names (tables columns : String → Prop) : Query → Prop
  | { select, source, joins, filter, groupBy } =>
    (∀ t, source = some t → tables t) ∧ Item.NamesAll tables columns select ∧
      Join.NamesAll tables columns joins ∧ Expr.NamesOption tables columns filter ∧
      Expr.NamesAll tables columns groupBy

end

section Lists

variable {tables columns : String → Prop}

theorem Expr.namesAll_iff (es : List Expr) :
    Expr.NamesAll tables columns es ↔ ∀ e ∈ es, e.Names tables columns := by
  induction es with
  | nil => simp [Expr.NamesAll]
  | cons e rest ih => rw [Expr.NamesAll, ih, List.forall_mem_cons]

theorem Expr.namesArms_iff (arms : List (Expr × Expr)) :
    Expr.NamesArms tables columns arms ↔
      ∀ arm ∈ arms, arm.1.Names tables columns ∧ arm.2.Names tables columns := by
  induction arms with
  | nil => simp [Expr.NamesArms]
  | cons arm rest ih => rw [Expr.NamesArms, ih, List.forall_mem_cons, and_assoc]

theorem Item.namesAll_iff (items : List Item) :
    Item.NamesAll tables columns items ↔ ∀ item ∈ items, item.expr.Names tables columns := by
  induction items with
  | nil => simp [Item.NamesAll]
  | cons item rest ih =>
    rcases item with ⟨expr, label⟩
    rw [Item.NamesAll, ih, List.forall_mem_cons]

end Lists

end Sql

open Sql (Expr)

/-! ## Names in what is compiled -/

section Compilation

variable {tables columns : String → Prop}

theorem Scalar.toSql_names (value : Scalar) : value.toSql.Names tables columns := by
  cases value with
  | text s =>
    rw [toSql]
    cases Text.Canonical.text? s <;> trivial
  | _ => trivial

theorem columnExpr_names {name : String} (h : columns name) :
    (columnExpr name).Names tables columns :=
  ⟨nofun, h⟩

namespace Expression

variable {α ε : Type} {refs : α → List Reference} {scope : List String}

mutual

/-- The names in an expression are its references and those in its aggregates. -/
theorem toSql_names {leaf : α → Expr} (e : Expression α)
    (hleaf : ∀ a ∈ e.aggregates, (leaf a).Names tables columns)
    (hrefs : ∀ ref ∈ references refs scope e, columns ref.column) :
    (toSql leaf e).Names tables columns := by
  cases e with
  | literal value => exact value.toSql_names
  | column name => exact columnExpr_names (hrefs _ List.mem_cons_self)
  | operation op args => exact toSqlAll_names args hleaf hrefs
  | aggregate a => exact hleaf a List.mem_cons_self

theorem toSqlAll_names {leaf : α → Expr} (args : List (Expression α))
    (hleaf : ∀ a ∈ aggregatesOf args, (leaf a).Names tables columns)
    (hrefs : ∀ ref ∈ referencesAll refs scope args, columns ref.column) :
    Expr.NamesAll tables columns (toSqlAll leaf args) := by
  cases args with
  | nil => trivial
  | cons arg rest =>
    simp only [aggregatesOf, referencesAll, List.mem_append] at hleaf hrefs
    exact ⟨toSql_names arg (fun a ha ↦ hleaf a (.inl ha)) fun ref href ↦ hrefs ref (.inl href),
      toSqlAll_names rest (fun a ha ↦ hleaf a (.inr ha)) fun ref href ↦ hrefs ref (.inr href)⟩

end

mutual

/-- An expression whose aggregates have been compiled to expressions. -/
theorem traverse_names {f : α → Except ε Expr} (e : Expression α)
    (hf : ∀ a ∈ e.aggregates, (∀ ref ∈ refs a, columns ref.column) → ∀ b, f a = .ok b →
      b.Names tables columns)
    (hrefs : ∀ ref ∈ references refs scope e, columns ref.column) {e' : Expression Expr}
    (h : traverse f e = .ok e') : (toSql id e').Names tables columns := by
  cases e with
  | literal value =>
    cases h
    exact value.toSql_names
  | column name =>
    cases h
    exact columnExpr_names (hrefs _ List.mem_cons_self)
  | operation op args =>
    obtain ⟨args', hargs, rfl⟩ := Outcome.map_eq_ok.mp h
    exact traverseAll_names args hf hrefs hargs
  | aggregate a =>
    obtain ⟨b, hb, rfl⟩ := Outcome.map_eq_ok.mp h
    exact hf a List.mem_cons_self hrefs b hb

/-- Each aggregate of a list brings the names that it refers to. -/
theorem traverseAll_names {f : α → Except ε Expr} (args : List (Expression α))
    (hf : ∀ a ∈ aggregatesOf args, (∀ ref ∈ refs a, columns ref.column) → ∀ b, f a = .ok b →
      b.Names tables columns)
    (hrefs : ∀ ref ∈ referencesAll refs scope args, columns ref.column)
    {args' : List (Expression Expr)} (h : traverseAll f args = .ok args') :
    Expr.NamesAll tables columns (toSqlAll id args') := by
  cases args with
  | nil =>
    cases h
    trivial
  | cons arg rest =>
    simp only [aggregatesOf, referencesAll, List.mem_append] at hf hrefs
    obtain ⟨e, he, h⟩ := Outcome.bind_eq_ok.mp h
    obtain ⟨es, hes, h⟩ := Outcome.bind_eq_ok.mp h
    cases h
    exact ⟨traverse_names arg (fun a ha ↦ hf a (.inl ha)) (fun ref href ↦ hrefs ref (.inl href)) he,
      traverseAll_names rest (fun a ha ↦ hf a (.inr ha)) (fun ref href ↦ hrefs ref (.inr href)) hes⟩

end

end Expression

namespace Operand

variable {scope : List String} {e : Operand}

theorem toSql_names (h : ∀ ref ∈ e.references scope, columns ref.column) :
    e.toSql.Names tables columns :=
  Expression.toSql_names e (fun a ↦ a.elim) h

theorem toPattern_names (h : ∀ ref ∈ e.references scope, columns ref.column) :
    e.toPattern.Names tables columns := by
  cases e with
  | literal value =>
    rw [toPattern]
    cases value.canonicalText? with
    | none => exact value.toSql_names
    | some form => trivial
  | column name => exact toSql_names h
  | operation op args => exact toSql_names h
  | aggregate a => exact a.elim

end Operand

theorem Comparison.toSql_names (op : Comparison) {left right : Operand} {scope : List String}
    (hleft : ∀ ref ∈ left.references scope, columns ref.column)
    (hright : ∀ ref ∈ right.references scope, columns ref.column) :
    (op.toSql left right).Names tables columns := by
  have hleftSql : left.toSql.Names tables columns := Operand.toSql_names hleft
  have hrightSql : right.toSql.Names tables columns := Operand.toSql_names hright
  unfold toSql
  split
  · exact hleftSql
  · split
    · exact ⟨hleftSql, Operand.toPattern_names hright⟩
    · exact ⟨hleftSql, Operand.toPattern_names hright⟩
    · split
      · exact ⟨hleftSql, Operand.toPattern_names hright⟩
      · split
        · exact ⟨hrightSql, Operand.toPattern_names hleft⟩
        · exact ⟨hleftSql, hrightSql⟩

namespace Condition

variable {scope : List String}

mutual

/-- Conditions name columns and no tables. -/
theorem toSql_names (c : Condition) (h : ∀ ref ∈ c.references scope, columns ref.column) :
    c.toSql.Names tables columns := by
  cases c with
  | empty => trivial
  | junction kind children =>
    rcases children with _ | ⟨child, rest⟩
    · cases kind <;> trivial
    · simp only [references, referencesAll, List.mem_append] at h
      have hchild := toSql_names child fun ref href ↦ h ref (.inl href)
      have hrest := toSqlAll_names rest fun ref href ↦ h ref (.inr href)
      rcases rest with _ | ⟨second, rest⟩
      · cases kind with
        | list => exact hchild
        | and => exact ⟨hchild, trivial⟩
        | or => exact ⟨hchild, trivial⟩
      · cases kind <;> exact ⟨hchild, hrest⟩
  | compare op left right =>
    simp only [references, List.mem_append] at h
    exact op.toSql_names (fun ref href ↦ h ref (.inl href)) fun ref href ↦ h ref (.inr href)

theorem toSqlAll_names (cs : List Condition)
    (h : ∀ ref ∈ referencesAll scope cs, columns ref.column) :
    Expr.NamesAll tables columns (toSqlAll cs) := by
  cases cs with
  | nil => trivial
  | cons child rest =>
    simp only [referencesAll, List.mem_append] at h
    exact ⟨toSql_names child fun ref href ↦ h ref (.inl href),
      toSqlAll_names rest fun ref href ↦ h ref (.inr href)⟩

end

theorem filter_names {c : Condition} (h : ∀ ref ∈ c.references scope, columns ref.column) :
    Expr.NamesOption tables columns c.filter := by
  unfold filter
  split
  · trivial
  · exact c.toSql_names h

/-- What always holds refers to nothing. -/
theorem references_of_isEmpty {c : Condition} (h : c.isEmpty = true) :
    c.references scope = [] := by
  cases c with
  | empty => rfl
  | junction kind children => cases h
  | compare op left right => cases h

/-- Conditions that are left out of a conjunction have no references. -/
theorem references_conjunction (c d : Condition) :
    (conjunction [c, d]).references scope = c.references scope ++ d.references scope := by
  unfold conjunction
  by_cases hc : c.isEmpty = true <;> by_cases hd : d.isEmpty = true <;>
    simp [hc, hd, references_of_isEmpty, references, referencesAll]

end Condition

namespace Options

/-- Whether the columns of the join rules, and the one that joins tables without a rule, have names
of one kind. -/
structure Names (columns : String → Prop) (options : Options) : Prop where
  left : ∀ rule ∈ options.joins, columns rule.leftColumn
  right : ∀ rule ∈ options.joins, columns rule.rightColumn
  identity : columns options.identityColumn

variable {options : Options} (hoptions : options.Names columns)

include hoptions

/-- A join compares columns of the table that is joined and of one that has been joined before. -/
theorem Names.joinPredicate {joined : List String} {table : String}
    (hjoined : ∀ t ∈ joined, tables t) (htable : tables table) :
    (options.joinPredicate joined table).Names tables columns := by
  have hcompare {left right leftColumn rightColumn : String} (hleft : tables left)
      (hright : tables right) (hleftColumn : columns leftColumn)
      (hrightColumn : columns rightColumn) :
      (Expr.compare .eq (.column (some left) leftColumn)
        (.column (some right) rightColumn)).Names tables columns :=
    ⟨⟨fun t ht ↦ Option.some.inj ht ▸ hleft, hleftColumn⟩,
      ⟨fun t ht ↦ Option.some.inj ht ▸ hright, hrightColumn⟩⟩
  unfold Options.joinPredicate
  split
  · rename_i predicate hfind
    obtain ⟨rule, hrule, hpredicate⟩ := List.exists_of_findSome?_eq_some hfind
    unfold JoinRule.predicate? at hpredicate
    split at hpredicate
    · rename_i hforward
      cases hpredicate
      exact hcompare (hjoined _ hforward.2) (hforward.1 ▸ htable) (hoptions.left rule hrule)
        (hoptions.right rule hrule)
    · split at hpredicate
      · rename_i hbackward
        cases hpredicate
        exact hcompare (hjoined _ hbackward.2) (hbackward.1 ▸ htable) (hoptions.right rule hrule)
          (hoptions.left rule hrule)
      · cases hpredicate
  · refine hcompare ?_ htable hoptions.identity hoptions.identity
    cases joined with
    | nil => exact htable
    | cons first rest => exact hjoined first List.mem_cons_self

/-- Joins name tables that are joined, and columns of rules or the identity column. -/
theorem Names.joinsAfter {joined rest : List String} (hjoined : ∀ t ∈ joined, tables t)
    (hrest : ∀ t ∈ rest, tables t) :
    Sql.Join.NamesAll tables columns (options.joinsAfter joined rest) := by
  induction rest generalizing joined with
  | nil => trivial
  | cons table rest ih =>
    have htable := hrest table List.mem_cons_self
    refine ⟨⟨htable, hoptions.joinPredicate hjoined htable⟩,
      ih ?_ fun t ht ↦ hrest t (List.mem_cons_of_mem table ht)⟩
    intro t ht
    rcases List.mem_append.mp ht with ht | ht
    · exact hjoined t ht
    · rwa [List.mem_singleton.mp ht]

/-- The first table is named without a column. -/
theorem Names.sources {names : List String} (hnames : ∀ t ∈ names, tables t) {first : String}
    {joins : List Sql.Join} (h : options.sources names = .ok (first, joins)) :
    tables first ∧ Sql.Join.NamesAll tables columns joins := by
  cases names with
  | nil => cases h
  | cons table rest =>
    cases h
    have hfirst := hnames _ List.mem_cons_self
    refine ⟨hfirst, hoptions.joinsAfter ?_ fun t ht ↦ hnames t (List.mem_cons_of_mem _ ht)⟩
    intro t ht
    rwa [List.mem_singleton.mp ht]

end Options

theorem Statistic.call_names {statistic : Statistic} {arg : Option Expr} {call : Expr}
    (harg : Expr.NamesOption tables columns arg) (h : statistic.call arg = .ok call) :
    call.Names tables columns := by
  cases arg with
  | none =>
    cases statistic <;> cases h
    exact ⟨trivial, trivial⟩
  | some arg => cases statistic <;> cases h <;> exact ⟨harg, trivial⟩

namespace Aggregation

variable {a : Aggregation}

theorem collected_names (hcolumn : ∀ name, a.column = some name → columns name) {value : Expr}
    (h : a.collected = .ok value) : value.Names tables columns := by
  unfold collected at h
  split at h
  · cases h
    trivial
  · split at h
    · rename_i name hname
      cases h
      exact columnExpr_names (hcolumn name hname)
    · cases h

/-- A nested query names the tables of its subject. -/
theorem toSql_names {options : Options} (hoptions : options.Names columns) {scope : List String}
    (hrefs : ∀ ref ∈ a.references scope, columns ref.column)
    (htables : ∀ subject, a.subject = some subject → ∀ t ∈ subject.tables, tables t) {e : Expr}
    (h : a.toSql options = .ok e) : e.Names tables columns := by
  simp only [references, List.mem_append] at hrefs
  have hcolumn : ∀ name, a.column = some name → columns name := by
    intro name hname
    refine hrefs { tables := a.scope scope, column := name } (.inr ?_)
    rw [hname]
    exact List.mem_cons_self
  have harg : Expr.NamesOption tables columns (a.column.map columnExpr) := by
    cases hname : a.column with
    | none => trivial
    | some name => exact columnExpr_names (hcolumn name hname)
  unfold toSql at h
  split at h
  · rename_i subject hsubject
    obtain ⟨⟨first, joins⟩, hsources, h⟩ := Outcome.bind_eq_ok.mp h
    obtain ⟨call, hcall, h⟩ := Outcome.bind_eq_ok.mp h
    cases h
    obtain ⟨hfirst, hjoins⟩ := hoptions.sources (htables subject hsubject) hsources
    have hconditions : ∀ ref ∈ (Condition.conjunction [subject.conditions, a.condition]).references
        (a.scope scope), columns ref.column := by
      intro ref href
      refine hrefs ref (.inl ?_)
      rw [hsubject]
      exact List.mem_append.mp (Condition.references_conjunction _ _ ▸ href)
    exact ⟨fun t ht ↦ Option.some.inj ht ▸ hfirst, ⟨Statistic.call_names harg hcall, trivial⟩,
      hjoins, Condition.filter_names hconditions, trivial⟩
  · split at h
    · exact Statistic.call_names harg h
    · obtain ⟨value, hvalue, h⟩ := Outcome.bind_eq_ok.mp h
      have hcondition : a.condition.toSql.Names tables columns :=
        a.condition.toSql_names fun ref href ↦ hrefs ref (.inl (.inr href))
      have hcases : Expr.NamesOption tables columns
          (some (.cases [(a.condition.toSql, value)] none)) :=
        ⟨⟨hcondition, collected_names hcolumn hvalue, trivial⟩, trivial⟩
      exact Statistic.call_names hcases h

end Aggregation

namespace Indicator

variable {options : Options} {indicator : Indicator}

/-- The names that are shown are those that the indicator refers to. -/
theorem columnExprs_names (hoptions : options.Names columns)
    (htables : ∀ t ∈ indicator.tables, tables t)
    (hrefs : ∀ ref ∈ indicator.references, columns ref.column) {exprs : List Expr}
    (h : indicator.columnExprs options = .ok exprs) : ∀ e ∈ exprs, e.Names tables columns := by
  intro e he
  obtain ⟨column, hcolumn, hbody⟩ := Outcome.exists_of_mem_mapM h he
  have hcolumnRefs : ∀ ref ∈ column.body.references indicator.subject.tables,
      columns ref.column := by
    intro ref href
    refine hrefs ref ?_
    rw [references, List.mem_append]
    exact .inr (List.mem_flatMap.mpr ⟨column, hcolumn, href⟩)
  cases hkind : column.body with
  | groupBy value =>
    rw [hkind] at hbody hcolumnRefs
    cases hbody
    exact Operand.toSql_names hcolumnRefs
  | cases arms =>
    rw [hkind] at hbody hcolumnRefs
    cases hbody
    refine ⟨(Expr.namesArms_iff _).mpr fun arm harm ↦ ?_, trivial⟩
    obtain ⟨a, ha, rfl⟩ := List.mem_map.mp harm
    exact ⟨a.condition.toSql_names fun ref href ↦
      hcolumnRefs ref (List.mem_flatMap.mpr ⟨a, ha, href⟩), trivial⟩
  | aggregation measure =>
    rw [hkind] at hbody hcolumnRefs
    obtain ⟨m', hm', rfl⟩ := Outcome.map_eq_ok.mp hbody
    refine Expression.traverse_names measure (fun a ha harefs b hb ↦ ?_) hcolumnRefs hm'
    refine Aggregation.toSql_names hoptions harefs (fun subject hsubject t ht ↦ ?_) hb
    exact htables t (mem_tables_of_mem_nested hcolumn hkind ha hsubject ht)

/-- The tables of a query are those of its indicator, and its columns are those of the indicator and
of the options. -/
theorem toQuery_names (hoptions : options.Names columns)
    (htables : ∀ t ∈ indicator.tables, tables t)
    (hrefs : ∀ ref ∈ indicator.references, columns ref.column) {query : Sql.Query}
    (h : indicator.toQuery options = .ok query) : query.Names tables columns := by
  obtain ⟨⟨first, joins⟩, hsources, h⟩ := Outcome.bind_eq_ok.mp h
  obtain ⟨exprs, hexprs, h⟩ := Outcome.bind_eq_ok.mp h
  cases h
  have hnames := columnExprs_names hoptions htables hrefs hexprs
  obtain ⟨hfirst, hjoins⟩ := hoptions.sources
    (fun t ht ↦ htables t (mem_tables_of_mem_subject ht)) hsources
  have hconditions : ∀ ref ∈ indicator.subject.conditions.references indicator.subject.tables,
      columns ref.column := by
    intro ref href
    refine hrefs ref ?_
    rw [references, List.mem_append]
    exact .inl href
  refine ⟨fun t ht ↦ Option.some.inj ht ▸ hfirst, (Sql.Item.namesAll_iff _).mpr fun item hitem ↦ ?_,
    hjoins, Condition.filter_names hconditions, (Expr.namesAll_iff _).mpr fun e he ↦ ?_⟩
  · obtain ⟨column, e, he, rfl⟩ := exists_of_mem_items hitem
    exact hnames e he
  · exact hnames e (mem_of_mem_groupExprs he)

end Indicator

end Compilation

/-! ## Catalogs -/

namespace Catalog

/-- Whether a catalog has another name for a table, and gives this one to none. -/
def Leftover (c : Catalog) (table : String) : Prop :=
  (∃ name, c.tables.get? table = some name ∧ name ≠ table) ∧
    ∀ other, c.tables.get? other ≠ some table

/-- Whether a column name is free of tables that are left over. -/
def Clear (c : Catalog) (column : String) : Prop :=
  ∀ table, Sql.qualifier? column = some table → ¬ c.Leftover table

/-- A name without a table in front of it is clear of all tables. -/
theorem clear_of_qualifier?_eq_none (c : Catalog) {column : String}
    (h : Sql.qualifier? column = none) : c.Clear column := by
  intro table htable
  rw [h] at htable
  cases htable

/-- Whether no column has a table in front that the catalog has another name for: neither in an
indicator or in the options it is compiled with, nor in the catalog. -/
structure Unqualified (c : Catalog) (indicator : Indicator) (options : Options) : Prop where
  references : ∀ ref ∈ indicator.references, c.Clear ref.column
  options : options.Names c.Clear
  columns : ∀ entry ∈ c.columns, ∀ column ∈ entry.2, c.Clear column.2

variable {c : Catalog}

/-- A table that is renamed is not left over, and one that is not has no other name. -/
theorem not_leftover_table (c : Catalog) (name : String) :
    ¬ c.Leftover (c.toRenaming.table name) := by
  rintro ⟨⟨other, hother, hne⟩, hnone⟩
  simp only [toRenaming] at hother hne hnone
  cases hname : c.tables.get? name with
  | none =>
    rw [hname, Option.getD_none] at hother
    rw [hname] at hother
    cases hother
  | some physical =>
    rw [hname, Option.getD_some] at hnone
    exact hnone name hname

theorem exists_mem_of_column? {scope : List String} {column name : String}
    (h : c.column? scope column = some name) :
    ∃ entry ∈ c.columns, ∃ pair ∈ entry.2, pair.2 = name := by
  obtain ⟨table, -, hfound⟩ := List.exists_of_findSome?_eq_some h
  obtain ⟨columns, hcolumns, hcolumn⟩ := Option.bind_eq_some_iff.mp hfound
  exact ⟨_, Dictionary.mem_of_get?_eq_some hcolumns, _, Dictionary.mem_of_get?_eq_some hcolumn, rfl⟩

/-- A catalog of clear names leaves clear names clear. -/
theorem Clear.column (hcolumns : ∀ entry ∈ c.columns, ∀ column ∈ entry.2, c.Clear column.2)
    {name : String} (hname : c.Clear name) (scope : List String) :
    c.Clear (c.toRenaming.column scope name) := by
  unfold toRenaming
  dsimp only
  cases hfound : c.column? scope name with
  | none => exact hname
  | some physical =>
    obtain ⟨entry, hentry, pair, hpair, rfl⟩ := exists_mem_of_column? hfound
    exact hcolumns entry hentry pair hpair

namespace Unqualified

variable {indicator : Indicator} {options : Options} (h : c.Unqualified indicator options)

include h

/-- All references are clear in the names of the catalog. -/
theorem references_apply : ∀ ref ∈ (c.apply indicator).references, c.Clear ref.column := by
  intro ref href
  rw [apply, Indicator.references_rename] at href
  obtain ⟨old, hold, rfl⟩ := List.mem_map.mp href
  exact Clear.column h.columns (h.references old hold) old.tables

/-- The rules are, too. -/
theorem options_applyJoins : (c.applyJoins options).Names c.Clear where
  left := by
    intro rule hrule
    obtain ⟨old, hold, rfl⟩ := List.mem_map.mp hrule
    exact Clear.column h.columns (h.options.left old hold) [old.left]
  right := by
    intro rule hrule
    obtain ⟨old, hold, rfl⟩ := List.mem_map.mp hrule
    exact Clear.column h.columns (h.options.right old hold) [old.right]
  identity := h.options.identity

end Unqualified

/-- In the query of an indicator in the names of a catalog, resolved or not, no source, no join and
no side of a join predicate is a table that is left over. If no column is written with such a table
in front, no column of the query is either. -/
theorem toQuery_apply_names {indicator : Indicator} {options : Options} {query : Sql.Query}
    (h : (c.apply indicator).toQuery (c.applyJoins options) = .ok query) :
    query.Names (fun table ↦ ¬ c.Leftover table) (fun _ ↦ True) ∧
      (c.Unqualified indicator options →
        query.Names (fun table ↦ ¬ c.Leftover table) c.Clear) := by
  have htables : ∀ table ∈ (c.apply indicator).tables, ¬ c.Leftover table := by
    intro table htable
    obtain ⟨old, -, rfl⟩ := Indicator.exists_of_mem_tables_rename htable
    exact c.not_leftover_table old
  constructor
  · have hany : (c.applyJoins options).Names fun _ ↦ True :=
      ⟨fun _ _ ↦ trivial, fun _ _ ↦ trivial, trivial⟩
    exact Indicator.toQuery_names hany htables (fun _ _ ↦ trivial) h
  · intro hunqualified
    exact Indicator.toQuery_names hunqualified.options_applyJoins htables
      hunqualified.references_apply h

end Catalog

namespace Graduates

def naming : Configuration where
  periods := []
  tables :=
    [("etudiants", { tags := ["etudiants"],
                     columns := [{ name := "pays", beginnings := ["pays"], keywords := [] }] }),
      ("insertion", { tags := ["insertion"], columns := [] })]

def register : List Import :=
  [{ tag := "etudiants", table := "imp_1", time := .epoch },
    { tag := "insertion", table := "imp_2", time := .epoch }]

def live : LiveTables := [("imp_1", ["id", "genre", "pays_actuel"]), ("imp_2", ["id", "salaire"])]

/-- An indicator of both tables that is grouped by a column. -/
def node (column : String) : Json :=
  .object
    [("sujet", .object [("tables", .array [.string "etudiants", .string "insertion"])]),
      ("colonnes", .array [.object
        [("type", .string "group_by"), ("titre", .string "Groupe"),
          ("expr", .object [("col", .string column)])]])]

def indicator (column : String) : Indicator where
  subject := { tables := ["etudiants", "insertion"], conditions := .empty }
  columns := [{ title := "Groupe", body := .groupBy (.column column) }]

def tables : Dictionary String := [("etudiants", "imp_1"), ("insertion", "imp_2")]

/-- The catalog for a column that the configuration knows. -/
def catalog : Catalog := { tables, columns := [("etudiants", [("pays", "pays_actuel")])] }

/-- Two logical tables, of which one has a column that is found by the beginning of its name. -/
theorem toQuery_apply_names_graduates :
    naming.resolve register live (indicator "pays").tables .any (indicator "pays").scopes =
        .ok catalog ∧
      ∃ query, (catalog.apply (indicator "pays")).toQuery (catalog.applyJoins .default) =
          .ok query ∧
        query.Names (fun table ↦ ¬ catalog.Leftover table) catalog.Clear := by
  have hunqualified : catalog.Unqualified (indicator "pays") .default := by
    refine ⟨fun ref href ↦ ?_, ⟨nofun, nofun, ?_⟩, fun entry hentry column hcolumn ↦ ?_⟩
    · cases List.mem_singleton.mp href
      exact catalog.clear_of_qualifier?_eq_none (by decide)
    · exact catalog.clear_of_qualifier?_eq_none (by decide)
    · cases List.mem_singleton.mp hentry
      cases List.mem_singleton.mp hcolumn
      exact catalog.clear_of_qualifier?_eq_none (by decide)
  exact ⟨rfl, _, rfl, (Catalog.toQuery_apply_names rfl).2 hunqualified⟩

/-- The table in front of a column is left as it is when the others have got new names. -/
theorem not_toQuery_apply_names :
    ¬ ∀ (config : Configuration) (register : List Import) (live : LiveTables) (request : Request)
      (node : Json) (indicator : Indicator) (catalog : Catalog) (options : Options)
      (query : Sql.Query), Indicator.read node = .ok indicator →
      config.resolve register live indicator.tables request indicator.scopes = .ok catalog →
      (catalog.apply indicator).toQuery (catalog.applyJoins options) = .ok query →
      query.Names (fun table ↦ ¬ catalog.Leftover table) catalog.Clear := by
  intro hnames
  have hread : Indicator.read (node "etudiants.genre") = .ok (indicator "etudiants.genre") := by
    with_unfolding_all rfl
  have hquery := hnames naming register live .any _ _ { tables, columns := [] } .default _ hread
    rfl rfl
  obtain ⟨-, ⟨⟨-, hclear⟩, -⟩, -⟩ := hquery
  refine hclear "etudiants" (by decide) ⟨⟨"imp_1", rfl, by decide⟩, fun other hother ↦ ?_⟩
  rw [tables, Dictionary.get?_cons, Dictionary.get?_cons] at hother
  split at hother
  · exact absurd hother (by decide)
  · split at hother
    · exact absurd hother (by decide)
    · cases hother

end Graduates

end Barometer
