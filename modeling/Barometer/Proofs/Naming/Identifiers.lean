import Barometer.Proofs.Compilation.Completeness
import Barometer.Proofs.Compilation.Mentions
import Barometer.Proofs.Compilation.Statements
import Barometer.Proofs.Sql.Places

/-!
# The names of a database in statements

Columns of a database are often called what the head of a sheet said: anything. The names that a
catalog puts into an indicator are written in its statement, in quotes unless they are plain. Plain
names can be read as something else than they are called.
-/

namespace Barometer

open Sql (Dialect Lexicon Query Token)

namespace Indicator

variable {options : Options} {indicator : Indicator} {query : Query}

/-- The names in an indicator are written in its query, except for the columns of counts of ones. -/
theorem name_mem_tokens (h : indicator.toQuery options = .ok query) (dialect : Dialect)
    {m : Sql.Mention} (hm : m ∈ indicator.names) :
    .name m.name ∈ query.tokens dialect ∨
      ∃ a ∈ indicator.aggregates, a.Skips indicator.subject.tables m :=
  ((mem_names_iff_mentions h).mp hm).imp_left (Query.name_mem_tokens dialect query)

/-- Tables to start from are all that a well formed indicator needs. -/
theorem WellFormed.exists_toQuery (h : indicator.WellFormed) (options : Options)
    (htables : indicator.subject.tables ≠ []) : ∃ query, indicator.toQuery options = .ok query := by
  cases hquery : indicator.toQuery options with
  | error defect => exact absurd ((h.toQuery_error_iff options defect).mp hquery).1 htables
  | ok query => exact ⟨query, rfl⟩

end Indicator

/-- Under any catalog an indicator that names tables has a query. The names in the indicator, as the
catalog has put them there, are written in the query, but for the columns of counts of ones. And
wherever a name is written in the statement, in an expression, as a table or in front of a column
and behind it where tables are linked, it is read as one identifier that is this name, if and only
if it is not ambiguous and is in quotes where it stands behind the number one. -/
theorem Catalog.readsName_apply_iff {node : Json} {indicator : Indicator}
    (hread : Indicator.read node = .ok indicator) (catalog : Catalog) (options : Options) :
    (indicator.subject.tables ≠ [] →
      ∃ query, (catalog.apply indicator).toQuery (catalog.applyJoins options) = .ok query) ∧
    ∀ query, (catalog.apply indicator).toQuery (catalog.applyJoins options) = .ok query →
      ∀ dialect,
        (∀ m ∈ (catalog.apply indicator).names, .name m.name ∈ query.tokens dialect ∨
          ∃ a ∈ (catalog.apply indicator).aggregates,
            a.Skips (catalog.apply indicator).subject.tables m) ∧
        ∀ lexicon before name after,
          query.statementTokens dialect = before ++ .name name :: after →
          (Sql.Lexer.ReadsName lexicon before name after ↔
            ¬ Sql.Lexer.IsAmbiguous lexicon name ∧
              ∀ earlier, before = earlier ++ [.name "1", .dot] → Sql.isPlain name = false) := by
  refine ⟨fun htables ↦ ?_, fun query hquery dialect ↦ ⟨fun m hm ↦ ?_, ?_⟩⟩
  · have hwell := (Indicator.wellFormed_of_read hread).apply catalog
    exact hwell.exists_toQuery _ fun hnil ↦
      htables ((Indicator.tables_apply_eq_nil_iff catalog indicator).mp hnil)
  · exact Indicator.name_mem_tokens hquery dialect hm
  · exact fun lexicon _ _ _ hplace ↦
      Query.readsName_iff lexicon (Indicator.toQuery_known hquery) hplace

namespace Headers

/-- The column is found by the beginning of its name. -/
def naming (beginning : String) : Configuration where
  periods := []
  tables :=
    [("etudiants",
      { tags := ["etudiants"]
        columns := [{ name := "pays", beginnings := [beginning], keywords := [] }] })]

def register : List Import := [{ tag := "etudiants", table := "imp_1", time := .epoch }]

def live (header : String) : LiveTables := [("imp_1", ["id", header])]

def node : Json :=
  .object
    [("sujet", .object [("tables", .array [.string "etudiants"])]),
      ("colonnes", .array [.object
        [("type", .string "group_by"), ("titre", .string "Pays"),
          ("expr", .object [("col", .string "pays")])]])]

def indicator : Indicator where
  subject := { tables := ["etudiants"], conditions := .empty }
  columns := [{ title := "Pays", body := .groupBy (.column "pays") }]

def catalog (header : String) : Catalog where
  tables := [("etudiants", "imp_1")]
  columns := [("etudiants", [("pays", header)])]

/-- One word is reserved, and names are read in lower case. -/
def lexicon : Lexicon where
  isReserved word := word == "order"
  fold word := .ofList (word.toList.map Char.toLower)

/-- Quotes, a comment and the end of a statement in a name. -/
def header : String := "Pays d\x27origine \"ref.pays\" -- 1;"

theorem read_node : Indicator.read node = .ok indicator := by
  with_unfolding_all rfl

/-- The tokens of the statement before the name of the column. -/
def before : List Token := [.keyword .select, .space]

/-- A table with one column besides its key, and an indicator that is grouped by this column. -/
theorem readsName_apply_iff_header :
    Indicator.read node = .ok indicator ∧
      (naming "Pays").resolve register (live header) indicator.tables .any indicator.scopes =
        .ok (catalog header) ∧
      ∃ query after,
        ((catalog header).apply indicator).toQuery ((catalog header).applyJoins .default) =
          .ok query ∧
        query.statementTokens .sqlite = before ++ .name header :: after ∧
        Sql.Lexer.ReadsName lexicon before header after := by
  obtain ⟨-, hplaces⟩ := Catalog.readsName_apply_iff read_node (catalog header) .default
  have hquoted : Sql.isPlain header = false := by decide
  have hreads := (hplaces _ rfl .sqlite).2 lexicon before header _ rfl
  refine ⟨read_node, rfl, _, _, rfl, rfl, hreads.mpr ⟨fun hambiguous ↦ ?_, fun _ _ ↦ hquoted⟩⟩
  cases hquoted.symm.trans (Sql.Lexer.isPlain_of_isAmbiguous hambiguous)

/-- Whether the column is found by a name that the statement has, and is not read by that name. -/
def Misread (header : String) : Prop :=
  (naming header).resolve register (live header) indicator.tables .any indicator.scopes =
      .ok (catalog header) ∧
    ∃ query after,
      ((catalog header).apply indicator).toQuery ((catalog header).applyJoins .default) =
        .ok query ∧
      query.statementTokens .sqlite = before ++ .name header :: after ∧
      ¬ Sql.Lexer.ReadsName lexicon before header after

/-- A header that could be something else is misread under its own name. -/
theorem misread_of_isAmbiguous {header : String}
    (hresolve : (naming header).resolve register (live header) indicator.tables .any
      indicator.scopes = .ok (catalog header))
    (h : Sql.Lexer.IsAmbiguous lexicon header) : Misread header := by
  have hquery : ((catalog header).apply indicator).toQuery ((catalog header).applyJoins .default) =
      .ok _ := rfl
  refine ⟨hresolve, _, _, hquery, rfl, fun hreads ↦ ?_⟩
  exact ((Query.readsName_iff lexicon (Indicator.toQuery_known hquery) rfl).mp hreads).1 h

/-- Two names with a point between them, a number, a star, a reserved word and another name are read
where columns are called like that. -/
theorem misread_headers : Indicator.read node = .ok indicator ∧
    Misread "ref.pays" ∧ Misread "1" ∧ Misread "*" ∧ Misread "order" ∧ Misread "Pays" := by
  have hpointed : "ref.pays".toList = "ref".toList ++ '.' :: "pays".toList := by decide
  refine ⟨read_node, misread_of_isAmbiguous rfl ?_, misread_of_isAmbiguous rfl (.inl rfl),
    misread_of_isAmbiguous rfl (.inr (.inl rfl)), misread_of_isAmbiguous rfl ?_,
    misread_of_isAmbiguous rfl ?_⟩
  · exact .inr (.inr (.inr ⟨_, _, by decide, by decide, hpointed⟩))
  · exact .inr (.inr (.inl ⟨by decide, .inl (by decide)⟩))
  · exact .inr (.inr (.inl ⟨by decide, .inr (by decide)⟩))

end Headers

end Barometer
