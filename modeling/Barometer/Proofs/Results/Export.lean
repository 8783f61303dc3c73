import Barometer.Compilation
import Barometer.Proofs.Decimal.Binary
import Barometer.Proofs.Json.Members
import Barometer.Proofs.Outcome
import Barometer.Proofs.Results.Csv
import Barometer.Proofs.Store.Rows
import Barometer.Report.Basic

/-!
# What an export shows

The rows of a result are objects, so columns of one title share a member, and it holds the value of
the last of them. An export shows this value in each of these columns, and every other value in its
own place, as a text of its own kind.
-/

namespace Barometer

/-- The text of a value: nothing for a missing value and for a number that is not finite, and octets
in base 64. -/
def Store.Value.exported : Store.Value → String
  | .null => ""
  | .int n => toString n
  | .real x => (Decimal.format? .json x).getD ""
  | .text s => s
  | .blob octets => Text.Base64.encode octets

namespace ResultSet

open Store (Row Value)

/-- A value is exported as the text of its cell. -/
theorem cellText_toJson (v : Value) : cellText (some v.toJson) = v.exported := by
  cases v with
  | null => rfl
  | int n => rfl
  | text s => rfl
  | blob octets => rfl
  | real x =>
    have hsome := Decimal.Binary.ofFloat?_isSome x
    rw [Value.toJson, Value.exported, Decimal.format?]
    cases hbinary : Decimal.Binary.ofFloat? x with
    | none =>
      rw [hbinary] at hsome
      rw [← hsome]
      rfl
    | some b =>
      rw [hbinary] at hsome
      rw [← hsome]
      simp [cellText, Json.compact, Json.Number.text, Decimal.format?, hbinary]

/-- The result of a query with given rows. -/
def ofRows (sql : String) (query : Sql.Query) (rows : List Row) : ResultSet :=
  ofStore sql { columns := query.select.map Sql.Item.title, rows }

/-- Whether a column is the last one of its title. -/
def IsLast (titles : List String) (title : String) (j : Nat) : Prop :=
  titles[j]? = some title ∧ ∀ k, titles[k]? = some title → k ≤ j

/-- A place is the last one of a title if the title does not come again. -/
theorem isLast_iff {titles : List String} {title : String} {j : Nat} :
    IsLast titles title j ↔ titles[j]? = some title ∧ title ∉ titles.drop (j + 1) := by
  refine and_congr_right fun _ ↦ ⟨fun hlast hmem ↦ ?_, fun hmem k hk ↦ ?_⟩
  · obtain ⟨k, hk⟩ := List.mem_iff_getElem?.mp hmem
    rw [List.getElem?_drop] at hk
    have hle := hlast _ hk
    omega
  · refine Nat.le_of_not_lt fun hlt ↦ hmem (List.mem_iff_getElem?.mpr ⟨k - (j + 1), ?_⟩)
    rw [List.getElem?_drop, Nat.add_sub_cancel' hlt]
    exact hk

instance (titles : List String) (title : String) (j : Nat) : Decidable (IsLast titles title j) :=
  decidable_of_iff _ isLast_iff.symm

theorem IsLast.cons {titles : List String} {title first : String} {j : Nat}
    (h : IsLast (first :: titles) title (j + 1)) : IsLast titles title j :=
  ⟨h.1, fun k hk ↦ Nat.le_of_succ_le_succ (h.2 (k + 1) hk)⟩

/-- A title that no entry has keeps the value that it had. -/
theorem get?_foldl_of_not_mem {title : String} {entries : List (String × Value)}
    (h : ∀ v, (title, v) ∉ entries) (members : Json.Members) :
    Json.get? (entries.foldl (fun members (title, v) ↦ Json.put title v.toJson members) members)
      title = Json.get? members title := by
  induction entries generalizing members with
  | nil => rfl
  | cons entry rest ih =>
    rcases entry with ⟨key, v⟩
    have hkey : title ≠ key := by
      rintro rfl
      exact h v List.mem_cons_self
    rw [List.foldl_cons, ih fun v' hv' ↦ h v' (List.mem_cons_of_mem _ hv'), Json.get?_put,
      if_neg hkey]

/-- The member of a title holds the value in the last column of this title. -/
theorem get?_foldl_put {titles : List String} {row : Row} {title : String} {j : Nat} {v : Value}
    (hlast : IsLast titles title j) (hv : row[j]? = some v) (members : Json.Members) :
    Json.get? ((titles.zip row).foldl (fun members (title, v) ↦ Json.put title v.toJson members)
      members) title = some v.toJson := by
  induction titles generalizing row j members with
  | nil => cases hlast.1
  | cons first titles ih =>
    cases row with
    | nil => cases hv
    | cons w row =>
      cases j with
      | zero =>
        cases hlast.1
        cases hv
        have hlater : ∀ v', (title, v') ∉ titles.zip row := by
          intro v' hmem
          obtain ⟨k, hk⟩ := List.mem_iff_getElem?.mp (List.of_mem_zip hmem).1
          exact absurd (hlast.2 (k + 1) hk) (Nat.not_succ_le_zero k)
        rw [List.zip_cons_cons, List.foldl_cons, get?_foldl_of_not_mem hlater, Json.get?_put,
          if_pos rfl]
      | succ j => exact ih hlast.cons hv _

/-- Whether a table of texts has a row for each of some rows, and shows in every column the value in
the last column with the same title. -/
def ShowsLast (titles : List String) (rows : List Row) (table : List (List String)) : Prop :=
  table.length = rows.length ∧ ∀ (r : Nat) (row : Row) (i j : Nat) title, rows[r]? = some row →
    titles[i]? = some title → IsLast titles title j →
      ∃ v : Value, row[j]? = some v ∧
        table[r]?.bind (fun cells ↦ cells[i]?) = some v.exported

/-- Each cell is the last one of its title. -/
theorem showsLast_cells {titles : List String} {rows : List Row}
    (hrows : ∀ row ∈ rows, row.length = titles.length) :
    ShowsLast titles rows ((rows.map (rowMembers titles)).map (cells titles)) := by
  refine ⟨by simp, fun r row i j title hrow hi hj ↦ ?_⟩
  have hlength : j < row.length := by
    rw [hrows row (List.mem_of_getElem? hrow)]
    exact (List.getElem?_eq_some_iff.mp hj.1).1
  refine ⟨row[j], List.getElem?_eq_getElem hlength, ?_⟩
  have hmember := get?_foldl_put hj (List.getElem?_eq_getElem hlength) []
  rw [List.getElem?_map, List.getElem?_map, hrow, Option.map_some, Option.map_some,
    Option.bind_some, cells, List.getElem?_map, hi, Option.map_some, rowMembers, hmember,
    cellText_toJson]

/-- Records without fields are read as one empty field, and then there is no column to show. -/
theorem ShowsLast.map_shown {titles : List String} {rows : List Row} {table : List (List String)}
    (h : ShowsLast titles rows table) : ShowsLast titles rows (table.map Csv.shown) := by
  refine ⟨by rw [List.length_map, h.1], fun r row i j title hrow hi hj ↦ ?_⟩
  obtain ⟨v, hv, hcell⟩ := h.2 r row i j title hrow hi hj
  refine ⟨v, hv, ?_⟩
  obtain ⟨record, hrecord, hcell⟩ := Option.bind_eq_some_iff.mp hcell
  rw [List.getElem?_map, hrecord, Option.map_some, Option.bind_some]
  cases record with
  | nil => cases hcell
  | cons cell record => exact hcell

theorem read_csv (separator : Csv.Separator) (result : ResultSet) :
    Csv.read separator (result.csv separator).toList = some (result.table.map Csv.shown) := by
  rw [csv, String.toList_ofList, Csv.read_records]

end ResultSet

namespace Report

/-- What the block of a slot is read as. -/
def blockRecords (slot : SlotResult) : List (List String) :=
  match slot.outcome with
  | .success result =>
    (["Indicateur: " ++ slot.indicatorTitle] :: result.table).map Csv.shown ++ [[]]
  | .failure _ => []

/-- A block is read as its records, in front of everything else. -/
theorem readFrom_block (slot : SlotResult) (rest : List Char) :
    Csv.readFrom .semicolon .start (block slot ++ rest) =
      (Csv.readFrom .semicolon .start rest).map (blockRecords slot ++ ·) := by
  unfold block blockRecords
  cases slot.outcome with
  | success result =>
    dsimp only
    rw [List.append_assoc, Csv.readFrom_records, List.singleton_append, Csv.readFrom_emptyLine,
      Option.map_map]
    congr 1
    funext records
    simp
  | failure f =>
    simp

/-- A report is read block by block, behind the mark at its beginning. -/
theorem read_csv (report : Report) :
    ∃ text, report.csv.toList = encodingMark :: text ∧
      Csv.read .semicolon text = some (report.results.flatMap blockRecords) := by
  refine ⟨_, String.toList_ofList, ?_⟩
  induction report.results with
  | nil => rfl
  | cons slot rest ih =>
    rw [Csv.read] at ih ⊢
    rw [List.flatMap_cons, readFrom_block, ih, List.flatMap_cons, Option.map_some]

end Report

/-- What a database returns are rows with one value for each column of the query. -/
theorem Store.Database.ofStore_of_run {db : Store.Database} {dialect : Sql.Dialect}
    {query : Sql.Query} {result : Store.Result} (h : db.run dialect query = .ok result)
    (sql : String) :
    ResultSet.ofStore sql result = ResultSet.ofRows sql query result.rows ∧
      ∀ row ∈ result.rows, row.length = query.select.length := by
  have hexecute : db.execute dialect query = .ok result := Outcome.mapError_eq_ok.mp h
  unfold execute at hexecute
  split at hexecute
  · obtain ⟨rows, hrows, hresult⟩ := Outcome.bind_eq_ok.mp hexecute
    cases hresult
    exact ⟨rfl, Sql.Query.length_of_mem_eval hrows⟩
  · cases hexecute

namespace Indicator

/-- The titles of a query are those of the columns. -/
theorem map_title_zipWith (columns : List Column) {exprs : List Sql.Expr}
    (h : exprs.length = columns.length) :
    (columns.zipWith Column.toItem exprs).map Sql.Item.title = columns.map Column.title := by
  induction columns generalizing exprs with
  | nil => rfl
  | cons column rest ih =>
    cases exprs with
    | nil => cases h
    | cons e es =>
      rw [List.zipWith_cons_cons, List.map_cons, List.map_cons, ih (Nat.succ.inj h)]
      rfl

/-- The items of a query are shown under the titles of the columns. -/
theorem map_title_select {options : Options} {indicator : Indicator} {query : Sql.Query}
    (h : indicator.toQuery options = .ok query) :
    query.select.map Sql.Item.title = indicator.columns.map Column.title := by
  obtain ⟨⟨first, joins⟩, -, h⟩ := Outcome.bind_eq_ok.mp h
  obtain ⟨exprs, hexprs, h⟩ := Outcome.bind_eq_ok.mp h
  cases h
  exact map_title_zipWith _ (Outcome.length_of_mapM hexprs)

/-- Whatever rows the query of an indicator has, with one value for each column: an export of the
result, and one of a report with this result in it, shows in each column the value in the last
column with the same title. -/
theorem export_showsLast {options : Options} {indicator : Indicator} {query : Sql.Query}
    (h : indicator.toQuery options = .ok query) {rows : List Store.Row}
    (hrows : ∀ row ∈ rows, row.length = query.select.length) (sql : String) :
    ∃ table, ResultSet.ShowsLast (indicator.columns.map Column.title) rows table ∧
      (∀ separator, Csv.read separator ((ResultSet.ofRows sql query rows).csv separator).toList =
        some (Csv.shown (indicator.columns.map Column.title) :: table)) ∧
      ∀ (report : Report) (before after : List SlotResult) (slot : SlotResult) id title,
        report.results = before ++ slot :: after →
        slot.outcome = .success
          { ResultSet.ofRows sql query rows with indicatorId := id, indicatorTitle := title } →
        ∃ text earlier later, report.csv.toList = Report.encodingMark :: text ∧
          Csv.read .semicolon text = some (earlier ++
            (["Indicateur: " ++ slot.indicatorTitle] ::
              Csv.shown (indicator.columns.map Column.title) :: table) ++ [] :: later) := by
  have htitles := map_title_select h
  have hlengths : ∀ row ∈ rows, row.length = (indicator.columns.map Column.title).length := by
    intro row hrow
    rw [hrows row hrow, ← htitles, List.length_map]
  refine ⟨_, (ResultSet.showsLast_cells hlengths).map_shown, fun separator ↦ ?_,
    fun report before after slot id title hresults houtcome ↦ ?_⟩
  · rw [ResultSet.read_csv, ← htitles]
    rfl
  · obtain ⟨text, htext, hread⟩ := report.read_csv
    refine ⟨text, before.flatMap Report.blockRecords, after.flatMap Report.blockRecords, htext, ?_⟩
    rw [hread, hresults, List.flatMap_append, List.flatMap_cons, Report.blockRecords, houtcome,
      ← htitles]
    simp [ResultSet.table, ResultSet.ofRows, ResultSet.ofStore, Csv.shown]

end Indicator

namespace Twins

def indicator : Indicator where
  subject := { tables := ["insertion"], conditions := .empty }
  columns :=
    [{ title := "Ville", body := .groupBy (.column "naissance") },
      { title := "Nom", body := .groupBy (.column "nom") },
      { title := "Ville", body := .groupBy (.column "domicile") }]

def row : Store.Row := [.text "Lyon", .text "Zoé", .text "Brest"]

/-- Two columns of one title, and one of another title between them. -/
theorem export_showsLast_twins :
    ∃ query table, indicator.toQuery .default = .ok query ∧
      Csv.read .semicolon ((ResultSet.ofRows "" query [row]).csv .semicolon).toList =
        some (["Ville", "Nom", "Ville"] :: table) ∧
      table[0]?.bind (fun cells ↦ cells[0]?) = some "Brest" ∧
      table[0]?.bind (fun cells ↦ cells[1]?) = some "Zoé" := by
  have hrows : ∀ r ∈ [row], r.length = 3 := by
    decide
  obtain ⟨table, hshows, hread, -⟩ :=
    Indicator.export_showsLast (rfl : indicator.toQuery .default = .ok _) hrows ""
  have hlast : ResultSet.IsLast ["Ville", "Nom", "Ville"] "Ville" 2 := by
    decide
  have hown : ResultSet.IsLast ["Ville", "Nom", "Ville"] "Nom" 1 := by
    decide
  obtain ⟨v, hv, hcell⟩ := hshows.2 0 row 0 2 "Ville" rfl rfl hlast
  obtain ⟨w, hw, hcell'⟩ := hshows.2 0 row 1 1 "Nom" rfl rfl hown
  cases hv
  cases hw
  exact ⟨_, table, rfl, hread .semicolon, hcell, hcell'⟩

/-- Values are not always shown in their own columns. -/
theorem not_export_showsOwn :
    ¬ ∀ (options : Options) (indicator : Indicator) (query : Sql.Query) (rows : List Store.Row)
      (sql : String) (table : List (List String)), indicator.toQuery options = .ok query →
      (∀ row ∈ rows, row.length = query.select.length) →
      Csv.read .semicolon ((ResultSet.ofRows sql query rows).csv .semicolon).toList =
        some (query.select.map Sql.Item.title :: table) →
      ∀ (r : Nat) (row : Store.Row) (i : Nat) (v : Store.Value), rows[r]? = some row →
        row[i]? = some v → table[r]?.bind (fun cells ↦ cells[i]?) = some v.exported := by
  intro howns
  have hcell := howns .default indicator _ [row] "" [["Brest", "Zoé", "Brest"]] rfl (by decide)
    (by decide) 0 row 0 (.text "Lyon") rfl rfl
  revert hcell
  decide

end Twins

end Barometer
