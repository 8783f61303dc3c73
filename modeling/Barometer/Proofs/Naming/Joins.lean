import Barometer.Indicator.Reader
import Barometer.Proofs.Compilation.Joins
import Barometer.Proofs.Naming.Resolution

/-!
# Columns of joins

The join rules are renamed by the same catalog as the indicator. It has names for the columns that
the indicator reads, so a column of a rule gets the name that resolution finds for it where the
indicator reads this column of this table. The column that joins tables without a rule has one name
for all of them, and no catalog changes it.
-/

namespace Barometer

open Sql (Expr)

/-- A column of a table that a join compares. -/
structure Side where
  table : String
  column : String
deriving DecidableEq, Repr

def Side.expr (side : Side) : Expr := .column (some side.table) side.column

namespace Link

/-- The side of the table that is joined earlier. -/
def earlier (identityColumn : String) : Link → Side
  | .forward rule => { table := rule.left, column := rule.leftColumn }
  | .backward rule => { table := rule.right, column := rule.rightColumn }
  | .identity first _ => { table := first, column := identityColumn }

/-- The side of the table that is being joined. -/
def later (identityColumn : String) : Link → Side
  | .forward rule => { table := rule.right, column := rule.rightColumn }
  | .backward rule => { table := rule.left, column := rule.leftColumn }
  | .identity _ table => { table, column := identityColumn }

def isRule : Link → Bool
  | .forward _ => true
  | .backward _ => true
  | .identity _ _ => false

/-- Whether a link is by one of the rules, or between two of the tables. -/
def Among (options : Options) (tables : List String) : Link → Prop
  | .forward rule => rule ∈ options.joins
  | .backward rule => rule ∈ options.joins
  | .identity first table => first ∈ tables ∧ table ∈ tables

/-- A link is the equality of its two sides. -/
theorem predicate_eq_compare (identityColumn : String) (link : Link) :
    link.predicate identityColumn =
      .compare .eq (link.earlier identityColumn).expr (link.later identityColumn).expr := by
  cases link <;> rfl

end Link

/-- A side in the names of a catalog. A column that no rule speaks of keeps its name. -/
def Side.rename (c : Catalog) (byRule : Bool) (side : Side) : Side where
  table := c.toRenaming.table side.table
  column := if byRule then c.toRenaming.column [side.table] side.column else side.column

/-- Only a side that comes from a rule has a column to rename. -/
theorem Link.earlier_rename (c : Catalog) (identityColumn : String) (link : Link) :
    (link.rename c).earlier identityColumn =
      (link.earlier identityColumn).rename c link.isRule := by
  cases link <;> rfl

theorem Link.later_rename (c : Catalog) (identityColumn : String) (link : Link) :
    (link.rename c).later identityColumn = (link.later identityColumn).rename c link.isRule := by
  cases link <;> rfl

/-- Tables of the database are linked by the renaming of a link between tables they stand for. -/
theorem Options.exists_link_applyJoins (c : Catalog) (options : Options) {tables : List String}
    {joined : List String} {table : String} (hsome : joined ≠ [])
    (hjoined : ∀ t ∈ joined, ∃ old ∈ tables, c.toRenaming.table old = t)
    (htable : ∃ old ∈ tables, c.toRenaming.table old = table) :
    ∃ link : Link, link.Among options tables ∧
      (c.applyJoins options).link joined table = link.rename c := by
  rcases hfind : (c.applyJoins options).joins.findSome? fun rule ↦ rule.link? joined table with
    _ | link
  · obtain ⟨first, rest, rfl⟩ := List.exists_cons_of_ne_nil hsome
    obtain ⟨oldFirst, holdFirst, rfl⟩ := hjoined first List.mem_cons_self
    obtain ⟨old, hold, rfl⟩ := htable
    refine ⟨.identity oldFirst old, ⟨holdFirst, hold⟩, ?_⟩
    rw [Options.link, hfind]
    rfl
  · obtain ⟨renamed, hrenamed, hlink⟩ := List.exists_of_findSome?_eq_some hfind
    obtain ⟨rule, hrule, rfl⟩ := List.mem_map.mp hrenamed
    unfold JoinRule.link? at hlink
    split at hlink
    · cases hlink
      exact ⟨.forward rule, hrule, by rw [Options.link, hfind]; rfl⟩
    · split at hlink
      · cases hlink
        exact ⟨.backward rule, hrule, by rw [Options.link, hfind]; rfl⟩
      · cases hlink

/-- Whether an indicator reads a column that the given table is the first to configure among those
it is looked up in. -/
def Indicator.Reads (config : Configuration) (indicator : Indicator) (side : Side) : Prop :=
  ∃ ref ∈ indicator.references, ref.column = side.column ∧
    ∃ logical, config.Owns ref.tables ref.column side.table logical

namespace Side

/-- A configured column of a logical table, and what resolution finds for it in the import that
fills this table. -/
def Resolved (config : Configuration) (register : List Import) (live : LiveTables)
    (request : Request) (side new : Side) : Prop :=
  ∃ logical record, config.column? side.table side.column = some logical ∧
    config.Fills register request side.table record ∧ new.table = record.table ∧
    live.resolveColumn record.table logical = .ok new.column

/-- How a side of a link is named in the database: by a rule as resolution finds it, if the
indicator reads it as well; without one by the same column. -/
structure Named (config : Configuration) (register : List Import) (live : LiveTables)
    (request : Request) (catalog : Catalog) (indicator : Indicator) (byRule : Bool)
    (side new : Side) : Prop where
  table : new.table = catalog.toRenaming.table side.table
  ofRule : byRule = true → indicator.Reads config side →
    side.Resolved config register live request new
  ofIdentity : byRule = false → new.column = side.column

end Side

/-- A join of the compiled query compares the two sides of the renaming of a link, as they are named
in the database. It is the link that the renamed options have for the table, given those before. -/
def JoinNamed (config : Configuration) (register : List Import) (live : LiveTables)
    (request : Request) (catalog : Catalog) (indicator : Indicator) (options : Options)
    (joined : List String) (join : Sql.Join) : Prop :=
  ∃ (link : Link) (earlier later : Side), link.Among options indicator.tables ∧
    (catalog.applyJoins options).link joined join.table = link.rename catalog ∧
    join.on = some (.compare .eq earlier.expr later.expr) ∧
    (link.earlier options.identityColumn).Named config register live request catalog indicator
      link.isRule earlier ∧
    (link.later options.identityColumn).Named config register live request catalog indicator
      link.isRule later

section Resolution

variable {config : Configuration} {register : List Import} {live : LiveTables} {request : Request}
  {indicator : Indicator} {catalog : Catalog} {options : Options} {query : Sql.Query}

/-- The catalog has an entry for every configured column that the indicator reads. -/
theorem Configuration.ListsColumns.named
    (hlists : config.ListsColumns register live request indicator.tables
      (Scope.references indicator.scopes) catalog) (byRule : Bool) (side : Side) :
    side.Named config register live request catalog indicator byRule
      (side.rename catalog byRule) := by
  refine ⟨rfl, fun hrule hreads ↦ ?_, fun hidentity ↦ ?_⟩
  · obtain ⟨ref, href, hcolumn, logical, howns⟩ := hreads
    have howner := Indicator.mem_tables_of_mem_reference href howns.mem
    obtain ⟨name, hentry⟩ :=
      hlists.complete ref ((indicator.mem_references_scopes ref).mpr href) side.table logical howns
        howner
    obtain ⟨logical', record, hconfigured, hfills, hname⟩ := hlists.sound _ _ name hentry
    rw [hcolumn] at hentry hconfigured
    have hrenamed : catalog.toRenaming.column [side.table] side.column = name := by
      simp [Catalog.toRenaming, Catalog.column?_eq_findSome?, hentry]
    refine ⟨logical', record, hconfigured, hfills,
      hlists.listsTables.toRenaming_table howner hfills, ?_⟩
    rw [Side.rename, if_pos hrule, hrenamed, hname]
  · rw [Side.rename, if_neg (by simp [hidentity])]

/-- After a successful resolution every join of the compiled query, at whatever depth, compares the
two sides of the renaming of a link. A side of a rule is the column that resolution finds for it, if
the indicator reads it. A side of the identity column is this column, configured or not. -/
theorem joins_name_resolved_columns
    (h : config.resolve register live indicator.tables request indicator.scopes = .ok catalog)
    (hquery : (catalog.apply indicator).toQuery (catalog.applyJoins options) = .ok query) :
    query.EachJoin (JoinNamed config register live request catalog indicator options) := by
  obtain ⟨-, hlists⟩ := Configuration.listsColumns_of_resolve h
  have hwrites : (catalog.applyJoins options).Writes
      (fun t ↦ ∃ old ∈ indicator.tables, catalog.toRenaming.table old = t)
      (JoinNamed config register live request catalog indicator options) := by
    intro joined table hsome hjoined htable
    obtain ⟨link, hamong, hlink⟩ := options.exists_link_applyJoins catalog hsome hjoined htable
    refine ⟨link, _, _, hamong, hlink, ?_, hlists.named link.isRule _, hlists.named link.isRule _⟩
    rw [Options.joinPredicate_eq, hlink, Link.predicate_eq_compare, ← Link.earlier_rename,
      ← Link.later_rename]
    rfl
  exact Indicator.toQuery_eachJoin hwrites (fun t ht ↦ Indicator.exists_of_mem_tables_rename ht)
    hquery

end Resolution

namespace Placements

/-- Three tables, two of them joined by a rule, and the third by the identity column, which its
configuration looks for under other names. -/
def naming : Configuration where
  periods := []
  tables :=
    [("etudiants", { tags := ["etudiants"], columns := [] }),
      ("insertion", { tags := ["insertion"],
                      columns := [{ name := "num", beginnings := ["num"], keywords := [] }] }),
      ("mobilite", { tags := ["mobilite"],
                     columns := [{ name := "id", beginnings := ["id"], keywords := [] }] })]

def register : List Import :=
  [{ tag := "etudiants", table := "imp_1", time := .epoch },
    { tag := "insertion", table := "imp_2", time := .epoch },
    { tag := "mobilite", table := "imp_3", time := .epoch }]

def live : LiveTables :=
  [("imp_1", ["id"]), ("imp_2", ["num_etudiant"]), ("imp_3", ["id_etudiant"])]

def options : Options :=
  { Options.default with
    joins :=
      [{ left := "insertion", right := "etudiants", leftColumn := "num", rightColumn := "id" }] }

/-- The indicator that counts the joined rows, as it is written. -/
def node : Json :=
  .object
    [("sujet", .object
      [("tables", .array [.string "etudiants", .string "insertion", .string "mobilite"])]),
      ("colonnes", .array [.object
        [("type", .string "aggregation"), ("titre", .string "N"),
          ("expr", .object [("agg", .string "count")])]])]

def indicator (column : Option String) : Indicator where
  subject := { tables := ["etudiants", "insertion", "mobilite"], conditions := .empty }
  columns :=
    [{ title := "N"
       body := .aggregation (.aggregate
        { statistic := .count, column, condition := .empty, subject := none }) }]

def tables : Dictionary String :=
  [("etudiants", "imp_1"), ("insertion", "imp_2"), ("mobilite", "imp_3")]

/-- The catalog for an indicator that reads the column of the rule. -/
def catalog : Catalog := { tables, columns := [("insertion", [("num", "num_etudiant")])] }

/-- The column of the rule has its new name in the join. -/
theorem joins_name_resolved_columns_placements :
    naming.resolve register live (indicator (some "num")).tables .any
        (indicator (some "num")).scopes = .ok catalog ∧
      ∃ query, (catalog.apply (indicator (some "num"))).toQuery (catalog.applyJoins options) =
          .ok query ∧
        query.EachJoin
          (JoinNamed naming register live .any catalog (indicator (some "num")) options) :=
  ⟨rfl, _, rfl, joins_name_resolved_columns rfl rfl⟩

/-- Whether in the joins by a rule, or in all others, each side that its table configures is the
column that resolution finds for it. -/
def JoinsResolve (byRule : Bool) : Prop :=
  ∀ (config : Configuration) (register : List Import) (live : LiveTables) (request : Request)
    (node : Json) (indicator : Indicator) (catalog : Catalog) (options : Options)
    (query : Sql.Query), Indicator.read node = .ok indicator →
    config.resolve register live indicator.tables request indicator.scopes = .ok catalog →
    (catalog.apply indicator).toQuery (catalog.applyJoins options) = .ok query →
    query.EachJoin fun joined join ↦
      ∃ (link : Link) (earlier later : Side), link.Among options indicator.tables ∧
        (catalog.applyJoins options).link joined join.table = link.rename catalog ∧
        join.on = some (.compare .eq earlier.expr later.expr) ∧
        (link.isRule = byRule →
          ∀ pair ∈ [(link.earlier options.identityColumn, earlier),
              (link.later options.identityColumn, later)],
            (∃ logical, config.column? pair.1.table pair.1.column = some logical) →
              pair.1.Resolved config register live request pair.2)

/-- The column of a rule that the indicator does not read keeps its name, and so does the identity
column of a table that is configured to look for it under another one. -/
theorem not_joinsResolve : ¬ JoinsResolve true ∧ ¬ JoinsResolve false := by
  have hread : Indicator.read node = .ok (indicator none) := by with_unfolding_all rfl
  constructor
  · intro hclaim
    obtain ⟨-, ⟨⟨⟨link, ⟨_, _⟩, ⟨_, _⟩, hamong, hlink, hon, hsides⟩, -⟩, -⟩, -⟩ :=
      hclaim naming register live .any node _ { tables, columns := [] } options _ hread rfl rfl
    cases link with
    | forward rule => cases hlink
    | identity first table => cases hlink
    | backward rule =>
      cases List.mem_singleton.mp hamong
      obtain ⟨logical, record, hlogical, hfills, -, hname⟩ :=
        hsides rfl _ (List.mem_cons_of_mem _ List.mem_cons_self) ⟨_, rfl⟩
      cases hlogical
      cases hfills.unique ⟨_, rfl, rfl⟩
      cases hon
      exact absurd (Except.ok.inj hname : "num_etudiant" = "num") (by decide)
  · intro hclaim
    obtain ⟨-, ⟨-, ⟨⟨link, ⟨_, _⟩, ⟨_, _⟩, hamong, hlink, hon, hsides⟩, -⟩, -⟩, -⟩ :=
      hclaim naming register live .any node _ { tables, columns := [] } options _ hread rfl rfl
    cases link with
    | forward rule => cases hlink
    | backward rule => cases hlink
    | identity first table =>
      have htable : table = "mobilite" := by
        have hname : catalog.toRenaming.table table = "imp_3" := (Link.identity.inj hlink).2.symm
        have hmem : table ∈ ["etudiants", "insertion", "mobilite"] := hamong.2
        simp only [List.mem_cons, List.not_mem_nil, or_false] at hmem
        rcases hmem with rfl | rfl | rfl
        · exact absurd hname (by decide)
        · exact absurd hname (by decide)
        · rfl
      cases htable
      obtain ⟨logical, record, hlogical, hfills, -, hname⟩ :=
        hsides rfl _ (List.mem_cons_of_mem _ List.mem_cons_self) ⟨_, rfl⟩
      cases hlogical
      cases hfills.unique ⟨_, rfl, rfl⟩
      cases hon
      exact absurd (Except.ok.inj hname : "id_etudiant" = "id") (by decide)

end Placements

end Barometer
