import Barometer.Proofs.Naming.Newest
import Barometer.Proofs.Text.Letters
import Mathlib.Data.List.Infix

/-!
# The best column

A logical column is the column of a table that bears its name, and else the best of those that begin
as it may begin: the first keyword that one of them holds decides, and of several that hold it the
leftmost one. Other columns do not matter.

Beginnings and keywords are looked for in lower case, in which a sigma at the end of a word differs
from one within it. So every column that is found begins as wanted without regard to case, but one
that begins so may be missed, even if it begins with the very letters that are asked for.
-/

namespace Barometer

namespace Text

/-- The lower case of a text as it is compared. -/
def lowered (s : String) : List Char := (lower s).toList

/-- The small sigma in one form. -/
def plainSigma (c : Char) : Char := if c = 'ς' then 'σ' else c

/-- A text without regard to case, letter by letter. -/
def foldCase (s : String) : List Char :=
  s.toList.flatMap fun c ↦ (lowerLetter c).map plainSigma

/-- A text that begins with another one does so without regard to case. -/
theorem foldCase_prefix {s t : String} (h : s.toList <+: t.toList) : foldCase s <+: foldCase t := by
  obtain ⟨rest, hrest⟩ := h
  rw [foldCase, foldCase, ← hrest, List.flatMap_append]
  exact List.prefix_append _ _

theorem lowerLetter_sigma : lowerLetter 'Σ' = ['σ'] := by
  have himage : Table.image? lowerRuns 'Σ' = some 'σ'.toNat := by
    simp only [lowerRuns, Table.runs, Table.entries, List.flatMap_cons, List.flatMap_nil]
    repeat rw [String.toList_ofList]
    decide +kernel
  rw [lowerLetter, if_neg (by decide), if_neg (by decide), himage]
  rfl

/-- Lower case and the text without regard to case differ in the form of the small sigma only. -/
theorem foldCase_eq_map (s : String) : foldCase s = (lowered s).map plainSigma := by
  have hafter (seen chars : List Char) : (lowerAfter seen chars).map plainSigma =
      chars.flatMap fun c ↦ (lowerLetter c).map plainSigma := by
    induction chars generalizing seen with
    | nil => rfl
    | cons c rest ih =>
      rw [lowerAfter, List.map_append, ih, List.flatMap_cons]
      congr 1
      split
      · rename_i hsigma
        rw [hsigma, lowerLetter_sigma]
        split <;> rfl
      · rfl
  rw [lowered, lower, String.toList_ofList, hafter]
  rfl

/-- The two agree on a text in which no word ends in a sigma. -/
theorem foldCase_eq_lowered {s : String} (h : 'ς' ∉ lowered s) : foldCase s = lowered s := by
  rw [foldCase_eq_map]
  have hplain : ∀ c ∈ lowered s, plainSigma c = c := by
    intro c hc
    refine if_neg ?_
    rintro rfl
    exact h hc
  rw [List.map_congr_left hplain, List.map_id']

end Text

open Text (lowered foldCase)

/-- Whether an entry is the first one of a list that has a property. -/
def IsFirst (p : String → Prop) (names : List String) (name : String) : Prop :=
  ∃ front back, names = front ++ name :: back ∧ p name ∧ ∀ other ∈ front, ¬ p other

/-- A search finds the first name of a kind, however the kind is tested. -/
theorem find?_eq_some_iff_isFirst {q : String → Bool} {p : String → Prop}
    (hq : ∀ name, q name = true ↔ p name) {names : List String} {name : String} :
    names.find? q = some name ↔ IsFirst p names name := by
  simp only [List.find?_eq_some_iff_append, IsFirst, Bool.not_eq_true', ← Bool.not_eq_true, hq]
  constructor
  · rintro ⟨hname, front, back, hsplit, hfront⟩
    exact ⟨front, back, hsplit, hname, hfront⟩
  · rintro ⟨front, back, hsplit, hname, hfront⟩
    exact ⟨hname, front, back, hsplit, hfront⟩

/-- Which name comes first does not depend on how the names are told apart. -/
theorem IsFirst.congr {p q : String → Prop} {names : List String} {name : String}
    (hsame : ∀ other ∈ names, p other ↔ q other) (h : IsFirst p names name) :
    IsFirst q names name := by
  obtain ⟨front, back, rfl, hname, hfront⟩ := h
  refine ⟨front, back, rfl, (hsame name (by simp)).mp hname, fun other hother ↦ ?_⟩
  exact mt (hsame other (List.mem_append_left _ hother)).mpr (hfront other hother)

namespace LogicalColumn

/-- Whether a name begins as a column may begin, when texts are compared by their views. -/
def Begins (view : String → List Char) (column : LogicalColumn) (name : String) : Prop :=
  ∃ start ∈ column.beginnings, view start <+: view name

/-- Whether a keyword stands in a name that begins as a column may begin. -/
structure Holds (view : String → List Char) (column : LogicalColumn) (keyword name : String) :
    Prop where
  begins : column.Begins view name
  inside : view keyword <:+: view name

/-- Whether a name is the best one of a table: the leftmost one that holds the first keyword that
any of them holds, or the leftmost one if there is no such keyword. -/
inductive IsBest (view : String → List Char) (column : LogicalColumn) (names : List String)
    (best : String) : Prop
  | keyword {earlier later : List String} {keyword : String}
      (hkeywords : column.keywords = earlier ++ keyword :: later)
      (hearlier : ∀ k ∈ earlier, ∀ name ∈ names, ¬ column.Holds view k name)
      (hfirst : IsFirst (column.Holds view keyword) names best)
  | leftmost (hkeywords : ∀ k ∈ column.keywords, ∀ name ∈ names, ¬ column.Holds view k name)
      (hfirst : IsFirst (column.Begins view) names best)

/-- Whether the choice of a column depends on a name. -/
def Matters (view : String → List Char) (column : LogicalColumn) (name : String) : Prop :=
  name = column.name ∨ column.Begins view name

variable {view view' : String → List Char} {column : LogicalColumn} {names : List String}
  {best : String}

instance (name : String) : Decidable (column.Begins view name) :=
  inferInstanceAs (Decidable (∃ start ∈ column.beginnings, view start <+: view name))

instance (keyword name : String) : Decidable (column.Holds view keyword name) :=
  decidable_of_iff (column.Begins view name ∧ view keyword <:+: view name)
    ⟨fun h ↦ ⟨h.1, h.2⟩, fun h ↦ ⟨h.begins, h.inside⟩⟩

instance (name : String) : Decidable (column.Matters view name) :=
  inferInstanceAs (Decidable (name = column.name ∨ column.Begins view name))

/-- A name begins as the configuration asks if its lowered text does. -/
theorem any_beginnings_iff (column : LogicalColumn) (name : String) :
    (column.beginnings.any fun start ↦
      (Text.lower start).toList.isPrefixOf (Text.lower name).toList) = true ↔
        column.Begins lowered name := by
  simp only [List.any_eq_true, List.isPrefixOf_iff_prefix]
  rfl

/-- Among the candidates a keyword is looked for in lower case, too. -/
theorem find?_candidates_iff (keyword : String) :
    ((column.candidates names).find? fun name ↦
        occursIn (Text.lower keyword).toList (Text.lower name).toList) = some best ↔
      IsFirst (column.Holds lowered keyword) names best := by
  rw [candidates, List.find?_filter]
  refine find?_eq_some_iff_isFirst fun name ↦ ?_
  rw [decide_eq_true_eq, any_beginnings_iff, occursIn_iff]
  exact ⟨fun h ↦ ⟨h.1, h.2⟩, fun h ↦ ⟨h.begins, h.inside⟩⟩

theorem find?_candidates_eq_none_iff (keyword : String) :
    ((column.candidates names).find? fun name ↦
        occursIn (Text.lower keyword).toList (Text.lower name).toList) = none ↔
      ∀ name ∈ names, ¬ column.Holds lowered keyword name := by
  simp only [List.find?_eq_none, candidates, List.mem_filter, any_beginnings_iff, occursIn_iff]
  constructor
  · exact fun h name hname hholds ↦ h name ⟨hname, hholds.begins⟩ hholds.inside
  · exact fun h name hname hinside ↦ h name hname.1 ⟨hname.2, hinside⟩

/-- The first candidate is the leftmost column that begins as asked for. -/
theorem head?_candidates_iff :
    (column.candidates names).head? = some best ↔ IsFirst (column.Begins lowered) names best := by
  rw [candidates, List.head?_filter]
  exact find?_eq_some_iff_isFirst (column.any_beginnings_iff)

/-- The choice goes through the keywords in order, and for each of them through the names. -/
theorem choose?_candidates_iff :
    column.choose? (column.candidates names) = some best ↔ column.IsBest lowered names best := by
  have hnone : (column.keywords.findSome? fun keyword ↦ (column.candidates names).find? fun name ↦
      occursIn (Text.lower keyword).toList (Text.lower name).toList) = none ↔
        ∀ k ∈ column.keywords, ∀ name ∈ names, ¬ column.Holds lowered k name := by
    simp only [List.findSome?_eq_none_iff, find?_candidates_eq_none_iff]
  rw [choose?, Option.or_eq_some_iff, hnone, head?_candidates_iff, List.findSome?_eq_some_iff]
  simp only [find?_candidates_iff, find?_candidates_eq_none_iff]
  constructor
  · rintro (⟨earlier, keyword, later, hkeywords, hfirst, hearlier⟩ | ⟨hkeywords, hfirst⟩)
    · exact .keyword hkeywords hearlier hfirst
    · exact .leftmost hkeywords hfirst
  · rintro (⟨hkeywords, hearlier, hfirst⟩ | ⟨hkeywords, hfirst⟩)
    · exact .inl ⟨_, _, _, hkeywords, hfirst, hearlier⟩
    · exact .inr ⟨hkeywords, hfirst⟩

theorem candidates_eq_nil_iff :
    column.candidates names = [] ↔ ∀ name ∈ names, ¬ column.Begins lowered name := by
  simp only [candidates, List.filter_eq_nil_iff, any_beginnings_iff]

/-- Every text that a choice compares: the beginnings, the keywords and the names. -/
def Agree (view view' : String → List Char) (column : LogicalColumn) (names : List String) : Prop :=
  ∀ s ∈ column.beginnings ++ column.keywords ++ names, view s = view' s

namespace Agree

theorem begins_iff (h : column.Agree view view' names) {name : String} (hname : name ∈ names) :
    column.Begins view name ↔ column.Begins view' name := by
  refine exists_congr fun start ↦ and_congr_right fun hstart ↦ ?_
  rw [h start (by simp [hstart]), h name (by simp [hname])]

theorem holds_iff (h : column.Agree view view' names) {keyword name : String}
    (hkeyword : keyword ∈ column.keywords) (hname : name ∈ names) :
    column.Holds view keyword name ↔ column.Holds view' keyword name := by
  have hinside : view keyword <:+: view name ↔ view' keyword <:+: view' name := by
    rw [h keyword (by simp [hkeyword]), h name (by simp [hname])]
  exact ⟨fun hholds ↦ ⟨(h.begins_iff hname).mp hholds.begins, hinside.mp hholds.inside⟩,
    fun hholds ↦ ⟨(h.begins_iff hname).mpr hholds.begins, hinside.mpr hholds.inside⟩⟩

theorem symm (h : column.Agree view view' names) : column.Agree view' view names :=
  fun s hs ↦ (h s hs).symm

/-- Two views that agree on a table choose the same of its columns. -/
theorem isBest (h : column.Agree view view' names) (hbest : column.IsBest view names best) :
    column.IsBest view' names best := by
  cases hbest with
  | @keyword earlier later keyword hkeywords hearlier hfirst =>
    have hmem {k : String} (hk : k ∈ earlier ∨ k = keyword) : k ∈ column.keywords := by
      rw [hkeywords, List.mem_append, List.mem_cons]
      exact hk.imp_right .inl
    refine .keyword hkeywords (fun k hk name hname ↦ ?_) (hfirst.congr fun name hname ↦ ?_)
    · rw [← h.holds_iff (hmem (.inl hk)) hname]
      exact hearlier k hk name hname
    · exact h.holds_iff (hmem (.inr rfl)) hname
  | leftmost hkeywords hfirst =>
    refine .leftmost (fun k hk name hname ↦ ?_) (hfirst.congr fun name hname ↦ h.begins_iff hname)
    rw [← h.holds_iff hk hname]
    exact hkeywords k hk name hname

end Agree

/-- A column that is found begins as wanted without regard to case. -/
theorem Begins.foldCase {name : String} (h : column.Begins lowered name) :
    column.Begins foldCase name := by
  obtain ⟨start, hstart, hprefix⟩ := h
  refine ⟨start, hstart, ?_⟩
  rw [Text.foldCase_eq_map, Text.foldCase_eq_map]
  exact hprefix.map _

/-- The candidates are among the names that matter. -/
theorem candidates_filter (hview : ∀ name, column.Begins lowered name → column.Begins view name)
    (names : List String) :
    column.candidates (names.filter fun name ↦ column.Matters view name) =
      column.candidates names := by
  rw [candidates, candidates, List.filter_filter]
  refine List.filter_congr fun name _ ↦ ?_
  rw [Bool.eq_iff_iff, Bool.and_eq_true, any_beginnings_iff, decide_eq_true_eq]
  exact ⟨And.left, fun h ↦ ⟨h, .inr (hview name h)⟩⟩

end LogicalColumn

namespace LiveTables

/-- Whether the column that stands for a logical one is the best of its table, when texts are
compared by their views. -/
structure ResolvesBest (view : String → List Char) (live : LiveTables) (table : String)
    (column : LogicalColumn) : Prop where
  chosen : ∀ name, live.resolveColumn table column = .ok name ↔
    name = column.name ∧ column.name ∈ live.columnsOf table ∨
      column.name ∉ live.columnsOf table ∧ column.IsBest view (live.columnsOf table) name
  fails : (∃ shortage, live.resolveColumn table column = .error shortage) ↔
    column.name ∉ live.columnsOf table ∧
      ∀ name ∈ live.columnsOf table, ¬ column.Begins view name
  shortage : ∀ shortage, live.resolveColumn table column = .error shortage →
    shortage = .column table column.name column.beginnings
  mem : ∀ name, live.resolveColumn table column = .ok name → name ∈ live.columnsOf table
  /-- Names that do not matter may come, go and move. -/
  unaffected : ∀ other : LiveTables,
    ((other.columnsOf table).filter fun name ↦ column.Matters view name) =
        (live.columnsOf table).filter (fun name ↦ column.Matters view name) →
      other.resolveColumn table column = live.resolveColumn table column

variable {view : String → List Char} {live other : LiveTables} {table : String}
  {column : LogicalColumn}

/-- The very name is taken wherever it is a column, and else the best that there is. -/
theorem resolveColumn_eq_ok_iff (name : String) :
    live.resolveColumn table column = .ok name ↔
      name = column.name ∧ column.name ∈ live.columnsOf table ∨
        column.name ∉ live.columnsOf table ∧
          column.IsBest lowered (live.columnsOf table) name := by
  rw [resolveColumn, ← LogicalColumn.choose?_candidates_iff]
  by_cases hname : column.name ∈ live.columnsOf table
  · simp [hname, eq_comm]
  · rw [if_neg hname]
    cases hchoice : column.choose? (column.candidates (live.columnsOf table)) with
    | none => simp [hname]
    | some best => simp [hname]

/-- A column that is not found is named with the beginnings that were asked for. -/
theorem resolveColumn_eq_error {shortage : Shortage}
    (h : live.resolveColumn table column = .error shortage) :
    shortage = .column table column.name column.beginnings := by
  unfold resolveColumn at h
  dsimp only at h
  split at h
  · cases h
  · split at h <;> cases h
    rfl

/-- Columns that begin otherwise can be added or removed anywhere. -/
theorem resolveColumn_congr
    (hview : ∀ name, column.Begins lowered name → column.Begins view name)
    (hsame : ((other.columnsOf table).filter fun name ↦ column.Matters view name) =
      (live.columnsOf table).filter fun name ↦ column.Matters view name) :
    other.resolveColumn table column = live.resolveColumn table column := by
  have hname : column.name ∈ other.columnsOf table ↔ column.name ∈ live.columnsOf table := by
    have hmem (names : List String) : column.name ∈ names ↔
        column.name ∈ names.filter fun name ↦ column.Matters view name := by
      simp [LogicalColumn.Matters]
    rw [hmem (other.columnsOf table), hsame, ← hmem]
  have hcandidates : column.candidates (other.columnsOf table) =
      column.candidates (live.columnsOf table) := by
    rw [← LogicalColumn.candidates_filter hview, hsame, LogicalColumn.candidates_filter hview]
  simp only [resolveColumn, hname, hcandidates]

theorem resolvesBest_lowered (live : LiveTables) (table : String) (column : LogicalColumn) :
    ResolvesBest lowered live table column where
  chosen := resolveColumn_eq_ok_iff
  fails := by rw [resolveColumn_error_iff, Lacks, LogicalColumn.candidates_eq_nil_iff]
  shortage _ := resolveColumn_eq_error
  mem _ := resolveColumn_mem
  unaffected _ := resolveColumn_congr fun _ ↦ id

/-- The column of a table for a logical one is the best one in lower case. It begins as wanted
without regard to case, and where no word ends in a sigma it is the best one without regard to
case. -/
theorem resolveColumn_best (live : LiveTables) (table : String) (column : LogicalColumn) :
    ResolvesBest lowered live table column ∧
      (∀ name, column.Begins lowered name → column.Begins foldCase name) ∧
      ((∀ s ∈ column.beginnings ++ column.keywords ++ live.columnsOf table, 'ς' ∉ lowered s) →
        ResolvesBest foldCase live table column) := by
  have hlowered := resolvesBest_lowered live table column
  refine ⟨hlowered, fun name ↦ .foldCase, fun hsigma ↦ ?_⟩
  have hagree : column.Agree lowered foldCase (live.columnsOf table) :=
    fun s hs ↦ (Text.foldCase_eq_lowered (hsigma s hs)).symm
  refine ⟨fun name ↦ ?_, ?_, hlowered.shortage, hlowered.mem,
    fun other ↦ resolveColumn_congr fun _ ↦ .foldCase⟩
  · rw [hlowered.chosen]
    exact or_congr_right (and_congr_right fun _ ↦ ⟨hagree.isBest, hagree.symm.isBest⟩)
  · rw [hlowered.fails]
    exact and_congr_right fun _ ↦ forall₂_congr fun name hname ↦ not_congr (hagree.begins_iff hname)

end LiveTables

namespace Questions

def situation : LogicalColumn where
  name := "situation"
  beginnings := ["Quelle_est"]
  keywords := ["future", "actuelle"]

/-- A table of questions. -/
def live : LiveTables :=
  [("imp_1", ["id", "quelle_est_la_filiere", "QUELLE_EST_SA_SITUATION_ACTUELLE", "future"])]

/-- The second keyword decides, since the first one stands only in a column that begins
otherwise. -/
theorem resolveColumn_best_situation :
    live.resolveColumn "imp_1" situation = .ok "QUELLE_EST_SA_SITUATION_ACTUELLE" ∧
      LiveTables.ResolvesBest foldCase live "imp_1" situation := by
  obtain ⟨hlowered, -, hfold⟩ := live.resolveColumn_best "imp_1" situation
  have hnames : live.columnsOf "imp_1" =
      ["id", "quelle_est_la_filiere", "QUELLE_EST_SA_SITUATION_ACTUELLE", "future"] := rfl
  have hsigma : ∀ s ∈ situation.beginnings ++ situation.keywords ++ live.columnsOf "imp_1",
      'ς' ∉ lowered s := by
    decide +kernel
  have hbest : situation.IsBest lowered (live.columnsOf "imp_1")
      "QUELLE_EST_SA_SITUATION_ACTUELLE" := by
    have hkeywords : situation.keywords = ["future"] ++ "actuelle" :: [] := rfl
    refine .keyword hkeywords ?_ ?_
    · decide +kernel
    · exact ⟨["id", "quelle_est_la_filiere"], ["future"], hnames, by decide +kernel,
        by decide +kernel⟩
  exact ⟨(hlowered.chosen _).mpr (.inr ⟨by decide, hbest⟩), hfold hsigma⟩

def share : LogicalColumn where
  name := "pososto"
  beginnings := ["ΠΟΣ"]
  keywords := []

/-- Its only column goes on after a sigma. -/
def shares : LiveTables := [("imp_1", ["ΠΟΣΟΣΤΟ"])]

theorem startsCased_omicron (rest : List Char) : Text.startsCased ('Ο' :: rest) = true := by
  have hletter : Text.Table.covers Text.caseIgnorableRanges 'Ο' = false ∧
      Text.Table.covers Text.casedRanges 'Ο' = true := by
    simp only [Text.caseIgnorableRanges, Text.casedRanges, Text.Table.ranges, Text.Table.entries,
      List.flatMap_cons, List.flatMap_nil]
    repeat rw [String.toList_ofList]
    decide +kernel
  rw [Text.startsCased, List.dropWhile_cons_of_neg (by simp [hletter.1])]
  exact hletter.2

/-- The sigma ends one of the texts and stands within the other. -/
theorem not_lowered_prefix : ¬ lowered "ΠΟΣ" <+: lowered "ΠΟΣΟΣΤΟ" := by
  have hshort : lowered "ΠΟΣ" = Text.lowerLetter 'Π' ++ (Text.lowerLetter 'Ο' ++ ['ς']) := by
    rw [lowered, Text.lower, String.toList_ofList, String.toList_ofList]
    simp only [Text.lowerAfter, if_neg (by decide : 'Π' ≠ 'Σ'), if_neg (by decide : 'Ο' ≠ 'Σ'),
      startsCased_omicron, List.append_nil, reduceIte]
    rfl
  have hlong : ∃ rest, lowered "ΠΟΣΟΣΤΟ" =
      Text.lowerLetter 'Π' ++ (Text.lowerLetter 'Ο' ++ 'σ' :: rest) := by
    rw [lowered, Text.lower, String.toList_ofList, String.toList_ofList]
    simp only [Text.lowerAfter, if_neg (by decide : 'Π' ≠ 'Σ'), if_neg (by decide : 'Ο' ≠ 'Σ'),
      startsCased_omicron, Bool.not_true, Bool.and_false, Bool.false_eq_true, reduceIte,
      List.singleton_append]
    exact ⟨_, rfl⟩
  obtain ⟨rest, hlong⟩ := hlong
  rw [hshort, hlong, List.prefix_append_right_inj, List.prefix_append_right_inj,
    List.cons_prefix_cons]
  exact fun h ↦ absurd h.1 (by decide)

/-- A column is missed although its name begins with the very letters that are asked for, so no
view of texts under which it still begins so makes it the best one. -/
theorem not_resolveColumn_best :
    (¬ ∀ live table column, LiveTables.ResolvesBest foldCase live table column) ∧
      ¬ ∃ view : String → List Char, (∀ s t : String, s.toList <+: t.toList → view s <+: view t) ∧
        ∀ live table column, LiveTables.ResolvesBest view live table column := by
  have hnone : ¬ ∃ view : String → List Char,
      (∀ s t : String, s.toList <+: t.toList → view s <+: view t) ∧
        ∀ live table column, LiveTables.ResolvesBest view live table column := by
    rintro ⟨view, hview, hbest⟩
    have hnames : shares.columnsOf "imp_1" = ["ΠΟΣΟΣΤΟ"] := rfl
    have hfails : ∃ shortage, shares.resolveColumn "imp_1" share = .error shortage := by
      rw [(LiveTables.resolvesBest_lowered shares "imp_1" share).fails, hnames]
      simp [LogicalColumn.Begins, share, not_lowered_prefix]
    have hbegins : "ΠΟΣ".toList <+: "ΠΟΣΟΣΤΟ".toList := by
      rw [String.toList_ofList, String.toList_ofList]
      decide
    refine ((hbest shares "imp_1" share).fails.mp hfails).2 "ΠΟΣΟΣΤΟ" ?_ ?_
    · rw [hnames]
      exact List.mem_singleton_self _
    · exact ⟨"ΠΟΣ", List.mem_singleton_self "ΠΟΣ", hview _ _ hbegins⟩
  exact ⟨fun hbest ↦ hnone ⟨foldCase, fun _ _ ↦ Text.foldCase_prefix, hbest⟩, hnone⟩

end Questions

end Barometer
