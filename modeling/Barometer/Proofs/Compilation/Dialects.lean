import Barometer.Proofs.Compilation.Orientation
import Barometer.Proofs.Sql.Dialects

/-!
# Statements for both databases

The dialect has no part in the query of an indicator. So the statements for both databases are
written from one query, and differ where that query matches patterns: there SQLite has the text
lowered.
-/

namespace Barometer

namespace Indicator

variable (indicator : Indicator) (options : Options)

/-- The query does not depend on the database that it is written for. -/
theorem toQuery_dialect (dialect : Sql.Dialect) :
    indicator.toQuery { options with dialect } = indicator.toQuery options := by
  have hpredicate : { options with dialect }.joinPredicate = options.joinPredicate := rfl
  exact toQuery_congr (Options.sources_congr hpredicate) indicator

/-- The statement for any of the databases, by the query. -/
theorem toStatement_dialect (dialect : Sql.Dialect) :
    indicator.toStatement { options with dialect } =
      (indicator.toQuery options).map (Sql.Query.statement dialect) := by
  rw [toStatement, toQuery_dialect]

/-- Compilation for both databases makes the same query or fails with the same defect. The one
rewording of the statement for PostgreSQL, in which every pattern match `x [NOT] ILIKE p` of the
query becomes `LOWER(x) [NOT] LIKE p`, is the statement for SQLite. -/
theorem toStatement_rewords :
    (∀ dialect, indicator.toQuery { options with dialect } = indicator.toQuery options) ∧
      ((∃ defect, indicator.toQuery options = .error defect ∧
          ∀ dialect, indicator.toStatement { options with dialect } = .error defect) ∨
        ∃ query, indicator.toQuery options = .ok query ∧
          (∀ dialect, indicator.toStatement { options with dialect } =
            .ok (Sql.textOf (query.statementTokens dialect))) ∧
          (∀ tokens,
            Sql.Rewords query.patternMatches (query.statementTokens .postgres) tokens ↔
              tokens = query.statementTokens .sqlite) ∧
          (query.patternMatches = [] →
            indicator.toStatement { options with dialect := .sqlite } =
              indicator.toStatement { options with dialect := .postgres })) := by
  refine ⟨indicator.toQuery_dialect options, ?_⟩
  cases hquery : indicator.toQuery options with
  | error defect =>
    exact .inl ⟨defect, rfl, fun dialect ↦ by rw [toStatement_dialect, hquery]; rfl⟩
  | ok query =>
    have hstatement (dialect : Sql.Dialect) : indicator.toStatement { options with dialect } =
        .ok (Sql.textOf (query.statementTokens dialect)) := by
      rw [toStatement_dialect, hquery]
      rfl
    have hrewords := query.rewords_statementTokens_iff
    refine .inr ⟨query, rfl, hstatement, hrewords, fun hnone ↦ ?_⟩
    have hsame : query.statementTokens .postgres = query.statementTokens .sqlite := by
      have h := (hrewords _).mpr rfl
      rw [hnone] at h
      exact h.eq_of_nil
    rw [hstatement .sqlite, hstatement .postgres, hsame]

end Indicator

namespace Bourgs

/-- Patterns are matched in the filter, in an arm and in the condition of an aggregate with a
subject. -/
def indicator : Indicator where
  subject :=
    { tables := ["etudiants"]
      conditions := .compare .eq (.column "pays") (.literal (.text "fr%")) }
  columns :=
    [{ title := "Ville"
       body := .cases
        [{ condition := .compare .notLike (.column "ville") (.literal (.text "%bourg"))
           label := "Ailleurs" }] },
      { title := "Autres"
        body := .aggregation (.aggregate
          { statistic := .count
            column := none
            condition := .compare .like (.column "pays") (.literal (.text "be%"))
            subject := some { tables := ["etudiants"], conditions := .empty } }) }]

/-- The students of some towns, counted among those of one country. -/
theorem toStatement_rewords_bourgs :
    ∃ query, indicator.toQuery .default = .ok query ∧ query.patternMatches.length = 4 ∧
      Sql.Rewords query.patternMatches (query.statementTokens .postgres)
        (query.statementTokens .sqlite) ∧
      Sql.textOf (query.statementTokens .sqlite) =
        "SELECT CASE WHEN LOWER(ville) NOT LIKE '%bourg' THEN 'Ailleurs' END AS \"Ville\", " ++
          "(SELECT COUNT(*) FROM etudiants WHERE LOWER(pays) LIKE 'be%') AS \"Autres\" " ++
          "FROM etudiants WHERE LOWER(pays) LIKE 'fr%' " ++
          "GROUP BY CASE WHEN LOWER(ville) NOT LIKE '%bourg' THEN 'Ailleurs' END;" := by
  obtain ⟨-, ⟨defect, hquery, -⟩ | ⟨query, hquery, -, hrewords, -⟩⟩ :=
    indicator.toStatement_rewords .default
  · cases hquery
  · have hsqlite := (hrewords _).mpr rfl
    cases hquery
    exact ⟨_, rfl, rfl, hsqlite, by decide +kernel⟩

end Bourgs

end Barometer
