import Barometer.Proofs.Store.Contexts
import Barometer.Proofs.Store.Rows
import Barometer.Store.Admission
import Mathlib.Data.List.TakeWhile

/-!
# Columns by their names

A name that stands alone names the column of its table, unless it is written in a way that means
something else: as a number or a star, as a table and a column, or as a word of the language. In a
table whose columns have different names it is read from the cell of that column, whatever titles or
queries there are around it.
-/

namespace Barometer.Store

/-- A table as a database keeps it: its columns have different names, and each row has a cell for
each of them. -/
structure Table.Sound (table : Table) : Prop where
  columns : table.columns.Pairwise fun a b ↦ sameName a b = false
  rows : ∀ row ∈ table.rows, row.length = table.columns.length

theorem sameName_comm (a b : String) : sameName a b = sameName b a := by
  rw [sameName, sameName, Bool.eq_iff_iff, beq_iff_eq, beq_iff_eq]
  exact eq_comm

theorem sameName_trans_left {a b : String} (h : sameName a b = true) (c : String) :
    sameName a c = sameName b c := by
  rw [sameName, beq_iff_eq] at h
  rw [sameName, sameName, h]

/-- Words that are not read as names where an expression begins. -/
def otherWords : List String :=
  Part.reservedWords ++ Part.openingWords ++ ["current_date", "current_time", "current_timestamp"]

/-- Whether a name that stands alone is read as that of a column. -/
def namesColumn (name : String) : Bool :=
  !Sql.isPlain name ||
    (name != "1" && name != "*" && !name.toList.contains '.' && !otherWords.any (sameName name))

/-- A name of a column is read as a path of one part. -/
theorem ofColumn_of_namesColumn {name : String} (h : namesColumn name = true) :
    ∃ part : Part, part.text = name ∧ Reading.ofColumn none name = .path [part] ∧
      isNamePath [part] = true := by
  cases hplain : Sql.isPlain name with
  | false =>
    refine ⟨{ text := name, quoted := true }, rfl, ?_, ?_⟩
    · simp [Reading.ofColumn, partsOf?, hplain, Reading.ofParts, Part.isWord]
    · simp [isNamePath, Part.isReserved, Part.isOpening, Part.isWord]
  | true =>
    simp only [namesColumn, hplain, Bool.not_true, Bool.false_or, Bool.and_eq_true, bne_iff_ne,
      Bool.not_eq_true', List.contains_eq_mem, decide_eq_false_iff_not] at h
    obtain ⟨⟨⟨hone, hstar⟩, hpoint⟩, hwords⟩ := h
    have hwhole : name.toList.dropWhile (· != '.') = [] := by
      rw [List.dropWhile_eq_nil_iff]
      intro c hc
      rw [bne_iff_ne]
      rintro rfl
      exact hpoint hc
    have hother : ∀ word ∈ otherWords, sameName name word = false := by
      intro word hword
      exact Bool.eq_false_iff.mpr fun hsame ↦
        Bool.eq_false_iff.mp hwords (List.any_eq_true.mpr ⟨word, hword, hsame⟩)
    refine ⟨{ text := name, quoted := false }, rfl, ?_, ?_⟩
    · have hnull : sameName name "null" = false := hother "null" (by decide)
      simp [Reading.ofColumn, partsOf?, hplain, hone, hstar, hwhole, Reading.ofParts, Part.isWord,
        hnull]
    · have hreserved : Part.isReserved { text := name, quoted := false } = false :=
        List.any_eq_false.mpr fun word hword ↦ by
          simp [Part.isWord, hother word (by simp [otherWords, hword])]
      have hopening : Part.isOpening { text := name, quoted := false } = false :=
        List.any_eq_false.mpr fun word hword ↦ by
          simp [Part.isWord, hother word (by simp [otherWords, hword])]
      simp [isNamePath, hreserved, hopening]

theorem Header.places_eq_nil_iff {test : Field → Bool} {header : Header} {k : Nat} :
    ((header.zipIdx k).filter fun entry ↦ test entry.1) = [] ↔
      ∀ field ∈ header, test field = false := by
  rw [List.filter_eq_nil_iff]
  constructor
  · intro h field hfield
    rw [← List.zipIdx_map_fst k header] at hfield
    obtain ⟨entry, hentry, rfl⟩ := List.mem_map.mp hfield
    exact Bool.eq_false_iff.mpr (h entry hentry)
  · intro h entry hentry
    rw [h entry.1 (List.fst_mem_of_mem_zipIdx hentry)]
    decide

/-- A test that one field passes tells its place. -/
theorem Header.places_of_unique {test : Field → Bool} {front back : Header} {field : Field}
    (hfield : test field = true) (hfront : ∀ other ∈ front, test other = false)
    (hback : ∀ other ∈ back, test other = false) :
    Header.places test (front ++ field :: back) = [front.length] := by
  rw [places, List.zipIdx_append, List.filter_append, places_eq_nil_iff.mpr hfront,
    List.zipIdx_cons, List.filter_cons, if_pos hfield, places_eq_nil_iff.mpr hback]
  simp

namespace Table

variable {table : Table}

/-- The columns around one of them have other names. -/
theorem Sound.split (htable : table.Sound) {column : String} {i : Nat}
    (hi : table.columns.findIdx? (sameName column) = some i) :
    ∃ front own back, table.columns = front ++ own :: back ∧ front.length = i ∧
      sameName own column = true ∧ ∀ other ∈ front ++ back, sameName other column = false := by
  obtain ⟨hlt, hsame, -⟩ := List.findIdx?_eq_some_iff_getElem.mp hi
  have hcolumns : table.columns =
      table.columns.take i ++ table.columns[i] :: table.columns.drop (i + 1) := by
    rw [← List.drop_eq_getElem_cons hlt, List.take_append_drop]
  have hdistinct := htable.columns
  rw [hcolumns, List.pairwise_append, List.pairwise_cons] at hdistinct
  obtain ⟨-, ⟨hback, -⟩, hfront⟩ := hdistinct
  refine ⟨table.columns.take i, table.columns[i], table.columns.drop (i + 1), hcolumns,
    List.length_take_of_le hlt.le, sameName_comm _ _ ▸ hsame, fun other hother ↦ ?_⟩
  rw [sameName_comm, sameName_trans_left hsame]
  rcases List.mem_append.mp hother with hother | hother
  · rw [sameName_comm]
    exact hfront other hother _ List.mem_cons_self
  · exact hback other hother

/-- A name is found among the columns of its table, before any title. -/
theorem Sound.find_column (htable : table.Sound) {part : Part} {i : Nat}
    (hi : table.columns.findIdx? (sameName part.text) = some i) (select : List Sql.Item) :
    (table.header ++ Sql.titleFields select).find [part] = .at i ∧
      ∃ own, (table.header ++ Sql.titleFields select)[i]? = some (.column table.name own) := by
  obtain ⟨front, own, back, hcolumns, rfl, hown, hothers⟩ := htable.split hi
  have hheader : table.header ++ Sql.titleFields select =
      front.map (Field.column table.name) ++ .column table.name own ::
        (back.map (Field.column table.name) ++
          .rowNumber table.name :: Sql.titleFields select) := by
    simp [header, hcolumns]
  have hnames {names : List String} (h : ∀ other ∈ names, sameName other part.text = false) :
      ∀ field ∈ names.map (Field.column table.name), field.isColumn [part] = false := by
    intro field hfield
    obtain ⟨other, hother, rfl⟩ := List.mem_map.mp hfield
    exact h other hother
  have hrest : ∀ field ∈ .rowNumber table.name :: Sql.titleFields select,
      Field.isColumn [part] field = false := by
    intro field hfield
    rcases List.mem_cons.mp hfield with rfl | hfield
    · rfl
    · obtain ⟨item, -, rfl⟩ := List.mem_map.mp hfield
      rfl
  have hplaces : (table.header ++ Sql.titleFields select).places (Field.isColumn [part]) =
      [front.length] := by
    rw [hheader]
    have hfront := hnames fun other hother ↦ hothers other (List.mem_append_left back hother)
    have hback := hnames fun other hother ↦ hothers other (List.mem_append_right front hother)
    refine (Header.places_of_unique hown hfront fun field hfield ↦ ?_).trans
      (by rw [List.length_map])
    rcases List.mem_append.mp hfield with hfield | hfield
    · exact hback field hfield
    · exact hrest field hfield
  refine ⟨?_, own, ?_⟩
  · rw [Header.find, hplaces]
  · rw [hheader]
    simp

end Table

section Cell

variable {table : Table} {column : String} {row : Row} {value : Value}

/-- The row of a table at work, with its number and perhaps the values of a select list. -/
def Table.level (table : Table) (select : List Sql.Item) (group : List Row) (row : Row)
    (number : Int) (shown : Row) : Level where
  header := table.header ++ Sql.titleFields select
  group := group
  row := row ++ .int number :: shown

/-- A column of the only table is known, whatever the titles are. -/
theorem isKnown_column (htable : table.Sound) (hname : namesColumn column = true)
    (hcell : Database.cell? table row column = some value) (select : List Sql.Item)
    (outer : List Header) :
    Sql.isKnown ((table.header ++ Sql.titleFields select) :: outer) (.ofColumn none column) =
      true := by
  obtain ⟨i, hi, -⟩ := Option.map_eq_some_iff.mp hcell
  obtain ⟨part, rfl, hreading, hpath⟩ := ofColumn_of_namesColumn hname
  obtain ⟨hfind, -⟩ := htable.find_column hi select
  rw [hreading, Sql.isKnown, hpath, resolves, List.find?_cons_of_pos (by simp [hfind])]
  simp [hfind]

/-- And it is read as the cell of the row. -/
theorem read_column (htable : table.Sound) (hname : namesColumn column = true)
    (hrow : row ∈ table.rows) (hcell : Database.cell? table row column = some value)
    (select : List Sql.Item) (group : List Row) (number : Int) (shown : Row) (outer : Context) :
    Context.read (table.level select group row number shown :: outer) (.ofColumn none column) =
      value := by
  obtain ⟨i, hi, rfl⟩ := Option.map_eq_some_iff.mp hcell
  obtain ⟨part, rfl, hreading, -⟩ := ofColumn_of_namesColumn hname
  obtain ⟨hfind, -⟩ := htable.find_column hi select
  have hlt : i < row.length := by
    rw [htable.rows row hrow]
    exact (List.findIdx?_eq_some_iff_getElem.mp hi).1
  rw [hreading, Context.read, Context.lookup]
  simp only [Table.level, hfind]
  rw [List.getD_eq_getElem?_getD, List.getElem?_append_left hlt, List.getD_eq_getElem?_getD]

/-- A column is compared as it is, or as a text. -/
theorem affinity_column (htable : table.Sound) (hname : namesColumn column = true)
    (hcell : Database.cell? table row column = some value) (select : List Sql.Item)
    (outer : List Header) :
    Affinity.ofReading ((table.header ++ Sql.titleFields select) :: outer) (.ofColumn none column) ≠
      .number := by
  obtain ⟨i, hi, -⟩ := Option.map_eq_some_iff.mp hcell
  obtain ⟨part, rfl, hreading, -⟩ := ofColumn_of_namesColumn hname
  obtain ⟨hfind, own, hfield⟩ := htable.find_column hi select
  rw [hreading, Affinity.ofReading, Affinity.ofPath, List.findSome?_cons]
  simp only [hfind, hfield, Field.affinity]
  split <;> decide

/-- What a row goes on with after its columns does not change its cells. -/
theorem cell?_append (htable : table.Sound) (hrow : row ∈ table.rows) (column : String)
    (rest : Row) : Database.cell? table (row ++ rest) column = Database.cell? table row column := by
  rw [Database.cell?, Database.cell?]
  refine Option.map_congr fun i hi ↦ ?_
  have hlt : i < row.length := by
    rw [htable.rows row hrow]
    exact (List.findIdx?_eq_some_iff_getElem.mp hi).1
  rw [List.getD_eq_getElem?_getD, List.getElem?_append_left hlt, List.getD_eq_getElem?_getD]

end Cell

theorem forall_mem_titleFields {p : Field → Prop} {select : List Sql.Item}
    (h : ∀ label, p (.title label)) : ∀ field ∈ Sql.titleFields select, p field :=
  List.forall_mem_map.mpr fun item _ ↦ h item.label

/-- A test that titles do not pass has its places among the other fields. -/
theorem Header.places_append_titleFields {test : Field → Bool} (header : Header)
    {select : List Sql.Item} (h : ∀ field ∈ Sql.titleFields select, test field = false) :
    places test (header ++ Sql.titleFields select) = places test header := by
  rw [places, List.zipIdx_append, List.filter_append, places_eq_nil_iff.mpr h, List.append_nil,
    places]

/-- Among titles the first one counts. -/
theorem Header.find_titleFields (select : List Sql.Item) (path : List Part) :
    (Sql.titleFields select).find path =
      match places (Field.isTitle path) (Sql.titleFields select) with
      | i :: _ => .at i
      | [] => .missing := by
  have hcolumns : places (Field.isColumn path) (Sql.titleFields select) = [] := by
    rw [places, places_eq_nil_iff.mpr (forall_mem_titleFields fun _ ↦ rfl), List.map_nil]
  have hnumbers : places (Field.isRowNumber path) (Sql.titleFields select) = [] := by
    rw [places, places_eq_nil_iff.mpr (forall_mem_titleFields fun _ ↦ rfl), List.map_nil]
  rewrite [find, hcolumns, hnumbers]
  rfl

theorem Header.find_titleFields_ne_ambiguous (select : List Sql.Item) (path : List Part) :
    (Sql.titleFields select).find path ≠ .ambiguous := by
  rw [find_titleFields]
  split <;> simp

theorem Header.not_isTitle_of_find_eq_missing {select : List Sql.Item} {path : List Part}
    (h : (Sql.titleFields select).find path = .missing) :
    ∀ field ∈ Sql.titleFields select, field.isTitle path = false := by
  rw [find_titleFields] at h
  split at h
  · cases h
  · rename_i hplaces
    exact places_eq_nil_iff.mp (List.map_eq_nil_iff.mp hplaces)

/-- A path means what it means without titles, unless it is a title and nothing else. -/
theorem Header.find_append_titleFields {header : Header} {select : List Sql.Item}
    {path : List Part}
    (h : header.find path = .missing → (Sql.titleFields select).find path = .missing) :
    (header ++ Sql.titleFields select).find path = header.find path := by
  have hcolumns : places (Field.isColumn path) (header ++ Sql.titleFields select) =
      places (Field.isColumn path) header :=
    header.places_append_titleFields (forall_mem_titleFields fun _ ↦ rfl)
  have hnumbers : places (Field.isRowNumber path) (header ++ Sql.titleFields select) =
      places (Field.isRowNumber path) header :=
    header.places_append_titleFields (forall_mem_titleFields fun _ ↦ rfl)
  by_cases hmissing : header.find path = .missing
  · have htitles := header.places_append_titleFields
      (not_isTitle_of_find_eq_missing (h hmissing))
    rw [find, hcolumns, hnumbers, htitles, find]
  · -- the titles come last, also among the titles of the header
    obtain ⟨more, hmore⟩ : ∃ more, places (Field.isTitle path)
        (header ++ Sql.titleFields select) = places (Field.isTitle path) header ++ more := by
      rw [places, List.zipIdx_append, List.filter_append, List.map_append]
      exact ⟨_, rfl⟩
    unfold find at hmissing ⊢
    rw [hcolumns, hnumbers, hmore]
    generalize places (Field.isColumn path) header = columns at hmissing ⊢
    generalize places (Field.isRowNumber path) header = numbers at hmissing ⊢
    generalize places (Field.isTitle path) header = titles at hmissing ⊢
    match columns, numbers, titles with
    | [], [], [] => exact absurd rfl hmissing
    | [], [], _ :: _ => rfl
    | [], [_], _ => rfl
    | [], _ :: _ :: _, _ => rfl
    | [_], _, _ => rfl
    | _ :: _ :: _, _, _ => rfl

/-- Paths that are not titles alone mean the same on a row with the values of a select list. -/
theorem Context.agreeOn_titleFields {header : Header} {select : List Sql.Item}
    {readings : List Reading}
    (h : ∀ path, .path path ∈ readings → header.find path = .missing →
      (Sql.titleFields select).find path = .missing) (group : List Row) (row : Row)
    (outer : Context) :
    AgreeOn readings ({ header := header ++ Sql.titleFields select, group, row } :: outer)
      ({ header, group, row } :: outer) := by
  constructor
  · intro reading hreading
    cases reading with
    | path parts =>
      have hfind := Header.find_append_titleFields (h parts hreading)
      simp only [read, lookup, hfind]
    | _ => rfl
  · intro reading hreading
    cases reading with
    | path parts =>
      have hfind := Header.find_append_titleFields (h parts hreading)
      simp only [headers, List.map_cons, Affinity.ofReading, Affinity.ofPath,
        List.findSome?_cons, hfind]
      rcases hplace : header.find parts with _ | _ | i
      · rfl
      · rfl
      · simp only [List.getElem?_append_left (Header.lt_length_of_find hplace)]
    | _ => rfl

theorem joinRows_singleton (rows : List Row) : Sql.joinRows [rows] = rows := by
  simp [Sql.joinRows]

/-- The rows of a query over one table are rows of the table, each with its number and perhaps with
what is shown for it. -/
theorem exists_level_of_mem_joinedRows {db : Database} {query : Sql.Query} {name : String}
    {table : Table} (hsource : query.source = some name) (hjoins : query.joins = [])
    (htable : db.source? name = some table) {outer : Context} {rows : List Row}
    (h : query.joinedRows db outer = .ok rows) {joined : Row} (hjoined : joined ∈ rows) :
    ∃ row ∈ table.rows, ∃ select number shown, joined = row ++ .int number :: shown ∧
      query.onRow db outer joined = table.level select [] row number shown :: outer := by
  have htables : Sql.sourceTables db query.source query.joins = [table] := by
    simp [Sql.sourceTables, hsource, hjoins, htable]
  have hheader : query.header db = table.header := by
    simp [Sql.Query.header, htables, Sql.headerOf]
  have hnumbered : ∀ row ∈ table.numberedRows, ∃ own ∈ table.rows, ∃ number : Int,
      row = own ++ [.int number] := by
    intro row hrow
    obtain ⟨⟨own, k⟩, hentry, rfl⟩ := List.mem_map.mp hrow
    exact ⟨own, List.fst_mem_of_mem_zipIdx hentry, k + 1, rfl⟩
  unfold Sql.Query.joinedRows at h
  simp only [htables, List.map_cons, List.map_nil, joinRows_singleton] at h
  unfold Sql.Query.onRow Sql.Query.fields
  rw [hheader]
  split at h
  · rename_i hresults
    obtain ⟨entry, hentry, hshown⟩ := Outcome.exists_of_mem_mapM h hjoined
    obtain ⟨shown, -, hshown⟩ := Outcome.bind_eq_ok.mp hshown
    obtain ⟨row, hrow, number, rfl⟩ := hnumbered entry hentry
    cases hshown
    rw [if_pos hresults]
    exact ⟨row, hrow, query.select, number, shown, by simp, by simp [Table.level]⟩
  · rename_i hresults
    cases h
    obtain ⟨row, hrow, number, rfl⟩ := hnumbered joined hjoined
    rw [if_neg hresults]
    exact ⟨row, hrow, [], number, [], rfl, by simp [Table.level, Sql.titleFields]⟩

end Barometer.Store
