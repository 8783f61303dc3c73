import Barometer.Proofs.Results.Export

/-!
# Reading a report back

The records of a report come in blocks, and an empty line ends each of them. A field never begins an
empty line: a record of one empty field is written between quotes, and lines inside a field stand
between quotes as well. So the blocks of an exported report are its results, in order and whole.
-/

namespace Barometer

namespace Csv

/-- The records of a text by the empty lines that end them. -/
def blocks : List (List String) → List (List (List String))
  | [] => []
  | [] :: rest => [] :: blocks rest
  | record :: rest =>
    match blocks rest with
    | [] => [[record]]
    | block :: others => (record :: block) :: others

/-- A block ends at the first empty line after it. -/
theorem blocks_append_emptyLine {block : List (List String)} (h : ∀ record ∈ block, record ≠ [])
    (rest : List (List String)) : blocks (block ++ [] :: rest) = block :: blocks rest := by
  induction block with
  | nil => rfl
  | cons record block ih =>
    have hrecord : record ≠ [] := h record List.mem_cons_self
    rw [List.cons_append, blocks, ih fun other hother ↦ h other (List.mem_cons_of_mem _ hother)]
    exact hrecord

/-- Blocks are told apart by the empty records at their ends. -/
theorem blocks_flatMap {α : Type} {f : α → List (List String)} {xs : List α}
    (h : ∀ x ∈ xs, ∀ record ∈ f x, record ≠ []) :
    blocks (xs.flatMap fun x ↦ f x ++ [[]]) = xs.map f := by
  induction xs with
  | nil => rfl
  | cons x xs ih =>
    rw [List.flatMap_cons, List.append_assoc, List.singleton_append,
      blocks_append_emptyLine (h x List.mem_cons_self), List.map_cons,
      ih fun y hy ↦ h y (List.mem_cons_of_mem _ hy)]

theorem shown_of_ne_nil {row : List String} (h : row ≠ []) : shown row = row := by
  cases row with
  | nil => exact absurd rfl h
  | cons s row => rfl

theorem shown_ne_nil (row : List String) : shown row ≠ [] := by
  cases row <;> exact List.cons_ne_nil _ _

end Csv

namespace ResultSet

/-- The records of a result that has columns are read as they are. -/
theorem map_shown_table {result : ResultSet} (h : result.columns ≠ []) :
    result.table.map Csv.shown = result.table := by
  have hrecords : ∀ record ∈ result.table, Csv.shown record = record := by
    intro record hrecord
    refine Csv.shown_of_ne_nil ?_
    rcases List.mem_cons.mp hrecord with rfl | hrow
    · exact h
    · obtain ⟨row, -, rfl⟩ := List.mem_map.mp hrow
      exact fun hcells ↦ h (List.map_eq_nil_iff.mp hcells)
  rw [List.map_congr_left hrecords, List.map_id']

end ResultSet

/-- The title and the result of a slot that has a result. -/
def SlotResult.result? (slot : SlotResult) : Option (String × ResultSet) :=
  match slot.outcome with
  | .success result => some (slot.indicatorTitle, result)
  | .failure _ => none

namespace Report

/-- The results of a report with their titles, in order. -/
def titledResults (report : Report) : List (String × ResultSet) :=
  report.results.filterMap SlotResult.result?

/-- What a reader of a report finds in a block. -/
structure Block where
  heading : String
  columns : List String
  rows : List (List String)
deriving DecidableEq, Repr

namespace Block

/-- A block opens with a line of one field and a line of titles. -/
def ofRecords? : List (List String) → Option Block
  | [heading] :: columns :: rows => some { heading, columns, rows }
  | _ => none

/-- The block of a title and a result. -/
def ofResult (titled : String × ResultSet) : Block where
  heading := "Indicateur: " ++ titled.1
  columns := titled.2.columns
  rows := titled.2.rows.map (ResultSet.cells titled.2.columns)

/-- The records of a block. -/
def records (block : Block) : List (List String) := [block.heading] :: block.columns :: block.rows

theorem map_shown_records {titled : String × ResultSet} (h : titled.2.columns ≠ []) :
    (ofResult titled).records.map Csv.shown = (ofResult titled).records := by
  rw [records, List.map_cons]
  exact congrArg (_ :: ·) (ResultSet.map_shown_table h)

/-- No record of a result with columns is empty. -/
theorem records_ne_nil {titled : String × ResultSet} (h : titled.2.columns ≠ []) :
    ∀ record ∈ (ofResult titled).records, record ≠ [] := by
  intro record hrecord
  rw [← map_shown_records h] at hrecord
  obtain ⟨row, -, rfl⟩ := List.mem_map.mp hrecord
  exact Csv.shown_ne_nil row

/-- The records of blocks are read as the blocks. -/
theorem mapM_ofRecords? (blocks : List Block) :
    (blocks.map records).mapM ofRecords? = some blocks := by
  induction blocks with
  | nil => rfl
  | cons block rest ih =>
    rw [List.map_cons, List.mapM_cons, ih]
    rfl

end Block

/-- The blocks in the text of a report, behind the mark at its beginning. -/
def readBlocks? (text : String) : Option (List Block) :=
  match text.toList with
  | [] => none
  | c :: rest =>
    if c = encodingMark then
      (Csv.read .semicolon rest).bind fun records ↦ (Csv.blocks records).mapM Block.ofRecords?
    else none

/-- What only results contribute to can be read off the results. -/
theorem flatMap_results {β : Type} {f : SlotResult → List β} {g : String × ResultSet → List β}
    {slots : List SlotResult} (hresult : ∀ slot ∈ slots, ∀ titled, slot.result? = some titled →
      f slot = g titled) (hfailure : ∀ slot, slot.result? = none → f slot = []) :
    slots.flatMap f = (slots.filterMap SlotResult.result?).flatMap g := by
  induction slots with
  | nil => rfl
  | cons slot rest ih =>
    have hrest := ih fun other hother ↦ hresult other (List.mem_cons_of_mem _ hother)
    rw [List.flatMap_cons, hrest]
    cases hslot : slot.result? with
    | none => rw [hfailure slot hslot, List.filterMap_cons_none hslot, List.nil_append]
    | some titled =>
      rw [hresult slot List.mem_cons_self titled hslot, List.filterMap_cons_some hslot,
        List.flatMap_cons]

/-- A failure has no block. -/
theorem block_eq_nil {slot : SlotResult} (h : slot.result? = none) :
    block slot = [] ∧ blockRecords slot = [] := by
  unfold block blockRecords
  cases houtcome : slot.outcome with
  | success result =>
    rw [SlotResult.result?, houtcome] at h
    cases h
  | failure f => exact ⟨rfl, rfl⟩

/-- A result has a block of its title, its columns and its rows. -/
theorem block_eq_records {slot : SlotResult} {titled : String × ResultSet}
    (h : slot.result? = some titled) :
    block slot = Csv.records .semicolon (Block.ofResult titled).records ++ ['\n'] ∧
      blockRecords slot = (Block.ofResult titled).records.map Csv.shown ++ [[]] := by
  unfold block blockRecords
  cases houtcome : slot.outcome with
  | success result =>
    rw [SlotResult.result?, houtcome] at h
    cases h
    exact ⟨rfl, rfl⟩
  | failure f =>
    rw [SlotResult.result?, houtcome] at h
    cases h

/-- The mark of the encoding in octets. -/
def encodingOctets : ByteArray := ⟨#[0xEF, 0xBB, 0xBF]⟩

/-- The mark takes the first three octets. -/
theorem toUTF8_encodingMark_cons (text : List Char) :
    (String.ofList (encodingMark :: text)).toUTF8 =
      encodingOctets ++ (String.ofList text).toUTF8 := by
  have hmark : (String.singleton encodingMark).toByteArray = encodingOctets := by
    rw [String.toByteArray_singleton]
    rfl
  rw [String.ofList_cons, String.toUTF8_eq_toByteArray, String.toByteArray_append, hmark]
  rfl

/-- A report is written as the mark of its encoding, then a block and an empty line for each of its
results in order, and nothing for failures. Each block is read as the heading, the titles and the
cells that it was written from, whatever characters they are made of. -/
theorem readBlocks_csv {report : Report} (hcolumns : ∀ slot ∈ report.results, ∀ result,
      slot.outcome = .success result → result.columns ≠ []) :
    report.csv.toUTF8 = encodingOctets ++ (String.ofList (report.titledResults.flatMap fun titled ↦
        Csv.records .semicolon (Block.ofResult titled).records ++ ['\n'])).toUTF8 ∧
      readBlocks? report.csv = some (report.titledResults.map Block.ofResult) := by
  have hwritten : report.results.flatMap block = report.titledResults.flatMap fun titled ↦
      Csv.records .semicolon (Block.ofResult titled).records ++ ['\n'] :=
    flatMap_results (fun slot _ titled h ↦ (block_eq_records h).1) fun slot h ↦ (block_eq_nil h).1
  refine ⟨by rw [csv, toUTF8_encodingMark_cons, hwritten], ?_⟩
  have htitled : ∀ slot ∈ report.results, ∀ titled, slot.result? = some titled →
      titled.2.columns ≠ [] := by
    intro slot hslot titled h
    unfold SlotResult.result? at h
    split at h
    · rename_i result houtcome
      cases h
      exact hcolumns slot hslot result houtcome
    · cases h
  have hrecords : ∀ titled ∈ report.titledResults, ∀ record ∈ (Block.ofResult titled).records,
      record ≠ [] := by
    intro titled hmem
    obtain ⟨slot, hslot, h⟩ := List.mem_filterMap.mp hmem
    exact Block.records_ne_nil (htitled slot hslot titled h)
  obtain ⟨text, htext, hread⟩ := report.read_csv
  have hblocks : report.results.flatMap blockRecords =
      report.titledResults.flatMap fun titled ↦ (Block.ofResult titled).records ++ [[]] := by
    refine flatMap_results (fun slot hslot titled h ↦ ?_) fun slot h ↦ (block_eq_nil h).2
    rw [(block_eq_records h).2, Block.map_shown_records (htitled slot hslot titled h)]
  rw [readBlocks?, htext]
  calc
    _ = (Csv.read .semicolon text).bind fun records ↦
          (Csv.blocks records).mapM Block.ofRecords? := if_pos rfl
    _ = (Csv.blocks (report.titledResults.flatMap fun titled ↦
          (Block.ofResult titled).records ++ [[]])).mapM Block.ofRecords? := by
      rw [hread, Option.bind_some, hblocks]
    _ = ((report.titledResults.map Block.ofResult).map Block.records).mapM Block.ofRecords? := by
      rw [Csv.blocks_flatMap hrecords, List.map_map]
      rfl
    _ = some (report.titledResults.map Block.ofResult) := Block.mapM_ofRecords? _

end Report

namespace Mobility

def result : ResultSet where
  sql := "SELECT pays AS \"A;B\" FROM mobilite GROUP BY pays;"
  columns := ["A;B"]
  rows := [[("A;B", .string "x\n\n\"y\"")], [("A;B", .null)], []]
  rowCount := 3
  indicatorId := some 1
  indicatorTitle := none

def report : Report where
  id := 7
  title := "Bilan"
  generatedAt := .epoch
  results :=
    [{ indicatorId := 1, indicatorTitle := "Pays\n", chartType := none,
        outcome := .success result },
      { indicatorId := 2, indicatorTitle := "Lien", chartType := none,
        outcome := .failure (.ofMessage "no such table: lien") }]

/-- A report with a failure in it, and a result whose title, column and values are made to look like
the ends of fields, of lines and of blocks. -/
theorem readBlocks_csv_mobility :
    (∀ slot ∈ report.results, ∀ result, slot.outcome = .success result → result.columns ≠ []) ∧
      Report.readBlocks? report.csv = some [{
        heading := "Indicateur: Pays\n"
        columns := ["A;B"]
        rows := [["x\n\n\"y\""], [""], [""]] }] := by
  have hcolumns : ∀ slot ∈ report.results, ∀ result, slot.outcome = .success result →
      result.columns ≠ [] := by
    intro slot hslot result houtcome
    rcases List.mem_cons.mp hslot with rfl | hslot
    · cases houtcome
      exact List.cons_ne_nil _ _
    · cases List.mem_singleton.mp hslot
      cases houtcome
  exact ⟨hcolumns, (Report.readBlocks_csv hcolumns).2⟩

end Mobility

end Barometer
