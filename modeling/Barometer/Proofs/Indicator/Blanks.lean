import Barometer.Proofs.Indicator.References
import Barometer.Proofs.Indicator.Scalar
import Barometer.Proofs.Indicator.WellFormed

/-!
# Blank names

An indicator that has been read is well-formed, no table in it has a blank name, and no aggregate
stands outside of the columns for aggregates. Columns have no blank names either, except those that
an aggregate has in an object of their own, which are taken as they are.
-/

namespace Barometer

open Defect

/-- Whether the node of an aggregate stands in an expression: as the expression itself, or in one of
the arguments of an operation. -/
inductive Expression.Holds : Json → Json → Prop
  | self {members : Json.Members} (hagg : (Json.get? members "agg").isSome = true) :
    Holds (.object members) (.object members)
  | arg {members : Json.Members} {items : List Json} {arg node : Json}
    (hagg : Json.get? members "agg" = none) (hcol : Json.get? members "col" = none)
    (hargs : Json.get? members "args" = some (.array items)) (harg : arg ∈ items)
    (hnode : Holds arg node) : Holds (.object members) node

/-- Whether the node of an aggregate stands in a column for aggregates of an indicator. -/
def Indicator.Holds (indicator node : Json) : Prop :=
  ∃ members columns parts expr, indicator = .object members ∧
    Json.get? members "colonnes" = some (.array columns) ∧ .object parts ∈ columns ∧
    Json.get? parts "type" = some (.string "aggregation") ∧ Json.get? parts "expr" = some expr ∧
    Expression.Holds expr node

/-- Whether the node of an aggregate has a column in an object of its own. -/
def Aggregation.Wraps (node : Json) (column : String) : Prop :=
  ∃ members inner, node = .object members ∧ Json.get? members "col" = some (.object inner) ∧
    Json.get? inner "col" = some (.string column)

namespace Expression

variable {α : Type} {leaf : Json → Except Defect α}

theorem mem_aggregatesOf {es : List (Expression α)} {a : α} :
    a ∈ aggregatesOf es ↔ ∃ e ∈ es, a ∈ e.aggregates := by
  induction es with
  | nil => simp [aggregatesOf]
  | cons e rest ih => simp [aggregatesOf, ih]

theorem mem_referencesAll {refs : α → List Reference} {tables : List String} {ref : Reference}
    {es : List (Expression α)} :
    ref ∈ referencesAll refs tables es ↔ ∃ e ∈ es, ref ∈ references refs tables e := by
  induction es with
  | nil => simp [referencesAll]
  | cons e rest ih => simp [referencesAll, ih]

/-- No column outside of the aggregates has a blank name. -/
theorem isBlankName_of_read {tables : List String} {node : Json} {e : Expression α}
    (h : read leaf node = .ok e) :
    ∀ ref ∈ references (fun _ ↦ []) tables e, isBlankName ref.column = false := by
  refine read_induction (motive := fun _ e ↦ ∀ ref ∈ references (fun _ ↦ []) tables e,
    isBlankName ref.column = false) ?_ ?_ ?_ ?_ h
  · intro node value _ ref href
    cases href
  · intro members name _ _ hname ref href
    cases List.mem_singleton.mp href
    exact hname
  · intro members a _ _ ref href
    cases href
  · intro members op items args _ _ _ _ hargs ref href
    obtain ⟨arg, harg, href⟩ := mem_referencesAll.mp href
    obtain ⟨_, -, hnamed⟩ := hargs arg harg
    exact hnamed ref href

/-- Every aggregate that is read stands in the node. -/
theorem exists_holds_of_mem_aggregates {node : Json} {e : Expression α}
    (h : read leaf node = .ok e) : ∀ a ∈ e.aggregates, ∃ n, Holds node n ∧ leaf n = .ok a := by
  refine read_induction (motive := fun node e ↦ ∀ a ∈ e.aggregates,
    ∃ n, Holds node n ∧ leaf n = .ok a) ?_ ?_ ?_ ?_ h
  · intro node value _ a ha
    cases ha
  · intro members name _ _ _ a ha
    cases ha
  · intro members a hagg hleaf b hb
    cases List.mem_singleton.mp hb
    exact ⟨_, .self hagg, hleaf⟩
  · intro members op items args hagg hcol hitems _ hargs a ha
    obtain ⟨arg, harg, ha⟩ := mem_aggregatesOf.mp ha
    obtain ⟨item, hitem, hheld⟩ := hargs arg harg
    obtain ⟨n, hn, hleaf⟩ := hheld a ha
    exact ⟨n, .arg hagg hcol hitems hitem hn, hleaf⟩

/-- Every aggregate that stands in a node is read. -/
theorem Holds.exists_mem_aggregates {node n : Json} (hn : Holds node n) {e : Expression α}
    (h : read leaf node = .ok e) : ∃ a ∈ e.aggregates, leaf n = .ok a := by
  induction hn generalizing e with
  | self hagg =>
    cases readsAs_of_read h with
    | literal hnode => exact absurd rfl (hnode _)
    | column hnone _ _ => simp [hnone] at hagg
    | aggregate _ ha => exact ⟨_, List.mem_singleton_self _, ha⟩
    | operation hnone _ _ _ _ => simp [hnone] at hagg
  | arg hagg hcol hargs harg _ ih =>
    cases readsAs_of_read h with
    | literal hnode => exact absurd rfl (hnode _)
    | column _ hsome _ => simp [hcol] at hsome
    | aggregate hsome _ => simp [hagg] at hsome
    | operation _ _ hargs' _ hitems =>
      cases hargs.symm.trans hargs'
      rw [readAll_eq_mapM] at hitems
      obtain ⟨e, he, hread⟩ := Outcome.exists_mem_of_mapM hitems harg
      obtain ⟨a, ha, hleaf⟩ := ih hread
      exact ⟨a, mem_aggregatesOf.mpr ⟨e, he, ha⟩, hleaf⟩

end Expression

namespace Operand

variable {node : Json} {e : Operand}

/-- A column is read only under a name that is not blank, wherever it stands in an operand. -/
theorem isBlankName_of_read (h : Operand.read node = .ok e) {tables : List String}
    {ref : Reference} (href : ref ∈ Operand.references tables e) :
    isBlankName ref.column = false := by
  rcases (Expression.mem_references_iff e).mp href with href | ⟨a, -, -⟩
  · exact Expression.isBlankName_of_read h ref href
  · exact a.elim

/-- An operand that holds an aggregate is refused. -/
theorem not_holds_of_read (h : Operand.read node = .ok e) (n : Json) :
    ¬ Expression.Holds node n := by
  intro hn
  obtain ⟨a, -, -⟩ := hn.exists_mem_aggregates h
  exact a.elim

end Operand

namespace Condition

theorem mem_referencesAll {tables : List String} {ref : Reference} {cs : List Condition} :
    ref ∈ referencesAll tables cs ↔ ∃ c ∈ cs, ref ∈ references tables c := by
  induction cs with
  | nil => simp [referencesAll]
  | cons c rest ih => simp [referencesAll, ih]

/-- The names in a condition stand in the operands of its comparisons. -/
theorem isBlankName_of_read {tables : List String} {node : Json} {c : Condition}
    (h : read node = .ok c) : ∀ ref ∈ c.references tables, isBlankName ref.column = false := by
  refine read_induction (motive := fun c ↦ ∀ ref ∈ c.references tables,
    isBlankName ref.column = false) ?_ ?_ ?_ h
  · intro ref href
    cases href
  · intro kind children hchildren ref href
    obtain ⟨child, hchild, href⟩ := mem_referencesAll.mp href
    exact hchildren child hchild ref href
  · intro op left right leftNode rightNode hleft hright ref href
    exact (List.mem_append.mp href).elim (Operand.isBlankName_of_read hleft)
      (Operand.isBlankName_of_read hright)

theorem isBlankName_of_optional {tables : List String} {c : Condition}
    (h : c = .empty ∨ ∃ node, read node = .ok c) {ref : Reference}
    (href : ref ∈ c.references tables) : isBlankName ref.column = false := by
  rcases h with rfl | ⟨node, hnode⟩
  · cases href
  · exact isBlankName_of_read hnode ref href

end Condition

/-- Signs that the canonical form leaves alone are not blank. -/
theorem isBlankName_of_unchanged {name : String}
    (h : ∀ c ∈ name.toList, c ∈ Text.Canonical.unchanged) (hne : name ≠ "") :
    isBlankName name = false := by
  obtain ⟨c, hc⟩ := List.exists_mem_of_ne_nil name.toList fun hnil ↦
    hne (String.toList_eq_nil_iff.mp hnil)
  exact List.all_eq_false.mpr ⟨c, hc, by simp [Text.Canonical.isBlank_of_mem_unchanged (h c hc)]⟩

/-- A number that stands for a column has at least one digit. -/
theorem Json.Number.isBlankName_text (n : Json.Number) : isBlankName n.text = false := by
  cases n with
  | integer n =>
    rw [Json.Number.text]
    exact isBlankName_of_unchanged (fun c ↦ Scalar.mem_unchanged_toString)
      (Scalar.toString_int_ne_empty n)
  | real x =>
    rw [Json.Number.text, Decimal.format?]
    cases Decimal.Binary.ofFloat? x with
    | none => decide
    | some b =>
      exact isBlankName_of_unchanged (fun c ↦ Scalar.mem_unchanged_signed)
        (Decimal.Layout.signed_ne_empty _ _ _)

theorem Subject.isBlankName_of_read {node : Json} {subject : Subject}
    (h : Subject.read node = .ok subject) :
    ∀ table ∈ subject.tables, isBlankName table = false := by
  intro table htable
  obtain ⟨members, -, ⟨nodes, hnodes⟩, -⟩ := Subject.readsAs_of_read h
  obtain ⟨name, -, hname⟩ := Outcome.exists_of_mem_mapM hnodes htable
  unfold Subject.readTable at hname
  split at hname
  · split at hname
    · cases hname
    · rename_i hblank
      cases hname
      exact Bool.eq_false_iff.mpr hblank
  · cases hname

namespace Aggregation

variable {node : Json} {a : Aggregation} {column : String}

/-- A blank text for a column stands for none, and a number is never blank. -/
theorem wraps_of_readColumn {members : Json.Members}
    (h : readColumn (.object members) (Json.get? members "col") = .ok (some column))
    (hblank : isBlankName column = true) : Wraps (.object members) column := by
  unfold readColumn at h
  split at h
  · cases h
  · cases h
  · split at h
    · cases h
    · rename_i hname
      cases h
      exact absurd hblank hname
  · rename_i n _
    cases h
    rw [n.isBlankName_text] at hblank
    cases hblank
  · rename_i inner hinner
    split at h
    · rename_i name hname
      cases h
      exact ⟨members, inner, rfl, hinner, hname⟩
    · cases h
  · cases h

/-- An object that wraps a name is taken for the name, blank or not. -/
theorem column_of_wraps (h : Aggregation.read node = .ok a) (hwraps : Wraps node column) :
    a.column = some column := by
  obtain ⟨members, rfl, hreads⟩ := readsAs_of_read h
  obtain ⟨_, inner, heq, hinner, hname⟩ := hwraps
  cases heq
  have hcolumn := hreads.column
  rw [hinner, readColumn, hname] at hcolumn
  exact (Except.ok.inj hcolumn).symm

theorem mem_references_of_column (h : a.column = some column) (outer : List String) :
    { tables := a.scope outer, column } ∈ a.references outer := by
  simp [references, h]

/-- Of what an aggregate reads only its column can have a blank name. -/
theorem wraps_of_mem_references (h : Aggregation.read node = .ok a) {outer : List String}
    {ref : Reference} (href : ref ∈ a.references outer) (hblank : isBlankName ref.column = true) :
    Wraps node ref.column := by
  obtain ⟨members, rfl, hreads⟩ := readsAs_of_read h
  simp only [references, List.mem_append] at href
  rcases href with (href | href) | href
  · split at href
    · cases href
    · rename_i subject hsubject
      obtain ⟨-, subjectNode, hread⟩ := subject_of_readSubject (hsubject ▸ hreads.subject)
      obtain ⟨_, -, hsubjectReads⟩ := Subject.readsAs_of_read hread
      rw [Condition.isBlankName_of_optional hsubjectReads.conditions href] at hblank
      cases hblank
  · rw [Condition.isBlankName_of_optional hreads.condition href] at hblank
    cases hblank
  · split at href
    · cases href
    · rename_i column hcolumn
      cases List.mem_singleton.mp href
      exact wraps_of_readColumn (hcolumn ▸ hreads.column) hblank

end Aggregation

namespace Column

variable {node : Json} {column : Column}

/-- Every aggregate of a column is written somewhere in the expression of the column. -/
theorem exists_holds_of_mem_aggregates (h : Column.read node = .ok column) {a : Aggregation}
    (ha : a ∈ column.body.aggregates) :
    ∃ parts expr n, node = .object parts ∧ Json.get? parts "type" = some (.string "aggregation") ∧
      Json.get? parts "expr" = some expr ∧ Expression.Holds expr n ∧
        Aggregation.read n = .ok a := by
  obtain ⟨parts, kind, hnode, hkind, hbody⟩ := readsBody_of_read h
  generalize column.body = body at ha hbody
  cases hbody with
  | groupBy _ => cases ha
  | cases _ _ => cases ha
  | aggregation hexpr hmeasure =>
    obtain ⟨n, hn, hread⟩ := Expression.exists_holds_of_mem_aggregates hmeasure a ha
    exact ⟨parts, _, n, hnode, hkind, hexpr, hn, hread⟩

/-- And nothing that is written as an aggregate there is passed over. -/
theorem exists_mem_aggregates_of_holds {parts : Json.Members} {expr n : Json}
    (h : Column.read (.object parts) = .ok column)
    (hkind : Json.get? parts "type" = some (.string "aggregation"))
    (hexpr : Json.get? parts "expr" = some expr) (hn : Expression.Holds expr n) :
    ∃ a ∈ column.body.aggregates, Aggregation.read n = .ok a := by
  obtain ⟨_, kind, heq, hkind', hbody⟩ := readsBody_of_read h
  cases heq
  obtain rfl : "aggregation" = kind := by simpa using hkind.symm.trans hkind'
  generalize hkind : "aggregation" = kind, column.body = body at hbody
  cases hbody with
  | groupBy _ => exact absurd hkind (by decide)
  | cases _ _ => exact absurd hkind (by decide)
  | aggregation hexpr' hmeasure =>
    cases hexpr.symm.trans hexpr'
    exact hn.exists_mem_aggregates hmeasure

/-- Only what an aggregate reads can have a blank name. -/
theorem isBlankName_of_read (h : Column.read node = .ok column) {tables : List String}
    {ref : Reference} (href : ref ∈ column.body.references tables) :
    isBlankName ref.column = false ∨ ∃ a ∈ column.body.aggregates, ref ∈ a.references tables := by
  obtain ⟨_, _, -, -, hbody⟩ := readsBody_of_read h
  generalize column.body = body at href hbody
  cases hbody with
  | groupBy hvalue => exact .inl (Operand.isBlankName_of_read hvalue href)
  | aggregation _ hmeasure =>
    refine ((Expression.mem_references_iff _).mp href).imp_left fun href ↦ ?_
    exact Expression.isBlankName_of_read hmeasure ref href
  | cases _ harms =>
    obtain ⟨arm, harm, href⟩ := List.mem_flatMap.mp href
    obtain ⟨_, hread⟩ := harms arm harm
    exact .inl (Condition.isBlankName_of_read hread ref href)

end Column

namespace Indicator

variable {node : Json} {indicator : Indicator}

/-- The aggregates of an indicator are read from the nodes that stand in its columns for them. -/
theorem mem_aggregates_of_read (h : Indicator.read node = .ok indicator) :
    (∀ a ∈ indicator.aggregates, ∃ n, Holds node n ∧ Aggregation.read n = .ok a) ∧
      ∀ n, Holds node n → ∃ a ∈ indicator.aggregates, Aggregation.read n = .ok a := by
  obtain ⟨members, rfl, -, nodes, hnodes, hcolumns⟩ := readsAs_of_read h
  constructor
  · intro a ha
    obtain ⟨column, hcolumn, ha⟩ := List.mem_flatMap.mp ha
    obtain ⟨columnNode, hmem, hread⟩ := Outcome.exists_of_mem_mapM hcolumns hcolumn
    obtain ⟨parts, expr, n, rfl, hkind, hexpr, hn, hleaf⟩ :=
      Column.exists_holds_of_mem_aggregates hread ha
    exact ⟨n, ⟨members, nodes, parts, expr, rfl, hnodes, hmem, hkind, hexpr, hn⟩, hleaf⟩
  · rintro n ⟨_, nodes', parts, expr, heq, hnodes', hmem, hkind, hexpr, hn⟩
    cases heq
    cases hnodes.symm.trans hnodes'
    obtain ⟨column, hcolumn, hread⟩ := Outcome.exists_mem_of_mapM hcolumns hmem
    obtain ⟨a, ha, hleaf⟩ := Column.exists_mem_aggregates_of_holds hread hkind hexpr hn
    exact ⟨a, List.mem_flatMap.mpr ⟨column, hcolumn, ha⟩, hleaf⟩

theorem isBlankName_of_mem_tables (h : Indicator.read node = .ok indicator) {table : String}
    (htable : table ∈ indicator.tables) : isBlankName table = false := by
  obtain ⟨members, -, ⟨subjectNode, hsubject⟩, nodes, -, hcolumns⟩ := readsAs_of_read h
  rw [tables, mem_firstSeen, List.mem_flatMap] at htable
  obtain ⟨subject, hmem, htable⟩ := htable
  rcases List.mem_cons.mp hmem with rfl | hmem
  · exact Subject.isBlankName_of_read hsubject table htable
  · obtain ⟨column, hcolumn, hmem⟩ := List.mem_flatMap.mp hmem
    split at hmem
    · rename_i measure hbody
      obtain ⟨a, ha, hnested⟩ := List.mem_filterMap.mp hmem
      obtain ⟨n, -, hread⟩ := (mem_aggregates_of_read h).1 a
        (List.mem_flatMap.mpr ⟨column, hcolumn, by rw [hbody]; exact ha⟩)
      obtain ⟨_, -, hreads⟩ := Aggregation.readsAs_of_read hread
      obtain ⟨-, _, hnode⟩ := Aggregation.subject_of_readSubject (hnested ▸ hreads.subject)
      exact Subject.isBlankName_of_read hnode table htable
    · cases hmem

/-- A column has a blank name only if an aggregate has it in an object of its own. -/
theorem exists_wraps_of_mem_references (h : Indicator.read node = .ok indicator) {ref : Reference}
    (href : ref ∈ indicator.references) (hblank : isBlankName ref.column = true) :
    ∃ n, Holds node n ∧ Aggregation.Wraps n ref.column := by
  obtain ⟨members, -, ⟨subjectNode, hsubject⟩, nodes, -, hcolumns⟩ := readsAs_of_read h
  rcases List.mem_append.mp href with href | href
  · obtain ⟨_, -, hreads⟩ := Subject.readsAs_of_read hsubject
    rw [Condition.isBlankName_of_optional hreads.conditions href] at hblank
    cases hblank
  · obtain ⟨column, hcolumn, href⟩ := List.mem_flatMap.mp href
    obtain ⟨columnNode, -, hread⟩ := Outcome.exists_of_mem_mapM hcolumns hcolumn
    rcases Column.isBlankName_of_read hread href with hnamed | ⟨a, ha, href⟩
    · rw [hnamed] at hblank
      cases hblank
    · obtain ⟨n, hn, hleaf⟩ := (mem_aggregates_of_read h).1 a
        (List.mem_flatMap.mpr ⟨column, hcolumn, ha⟩)
      exact ⟨n, hn, Aggregation.wraps_of_mem_references hleaf href hblank⟩

/-- So a wrapped name becomes a reference of the indicator, whatever it looks like. -/
theorem exists_mem_references_of_wraps (h : Indicator.read node = .ok indicator) {n : Json}
    (hn : Holds node n) {name : String} (hwraps : Aggregation.Wraps n name) :
    ∃ ref ∈ indicator.references, ref.column = name := by
  obtain ⟨a, ha, hread⟩ := (mem_aggregates_of_read h).2 n hn
  exact ⟨_, mem_references_of_aggregate ha (Aggregation.mem_references_of_column
    (Aggregation.column_of_wraps hread hwraps) _), rfl⟩

/-- An indicator that has been read is well-formed and its tables have names that are not blank. A
blank name is that of a column exactly if an aggregate has it in an object of its own. Wherever an
aggregate has no place, a node that holds one is refused. -/
theorem wellFormed_names_of_read (h : Indicator.read node = .ok indicator) :
    indicator.WellFormed ∧ (∀ table ∈ indicator.tables, isBlankName table = false) ∧
      (∀ name, isBlankName name = true →
        ((∃ ref ∈ indicator.references, ref.column = name) ↔
          ∃ n, Holds node n ∧ Aggregation.Wraps n name)) ∧
      ∀ operandNode operand n, Operand.read operandNode = .ok operand →
        ¬ Expression.Holds operandNode n := by
  refine ⟨wellFormed_of_read h, fun table ↦ isBlankName_of_mem_tables h, fun name hblank ↦ ?_,
    fun _ _ n hread ↦ Operand.not_holds_of_read hread n⟩
  constructor
  · rintro ⟨ref, href, rfl⟩
    exact exists_wraps_of_mem_references h href hblank
  · rintro ⟨n, hn, hwraps⟩
    exact exists_mem_references_of_wraps h hn hwraps

end Indicator

namespace Fees

/-- The column is in an object of its own. -/
def unnamed : Json :=
  .object [("agg", .string "sum"), ("col", .object [("col", .string " ")])]

/-- The fees of a year over those in a column without a name. -/
def node : Json :=
  .object
    [("sujet", .object
        [("tables", .array [.string "inscriptions"]),
          ("conditions", .object
            [(">=", .array [.object [("col", .string "annee")], .number (.integer 2020)])])]),
      ("colonnes", .array
        [.object
          [("type", .string "aggregation"), ("titre", .string "Part"),
            ("expr", .object
              [("op", .string "/"), ("args", .array
                [.object [("agg", .string "sum"), ("col", .string "droits")], unnamed])])]])]

def indicator : Indicator where
  subject :=
    { tables := ["inscriptions"]
      conditions := .compare .gte (.column "annee") (.literal (.int 2020)) }
  columns :=
    [{ title := "Part"
       body := .aggregation (.operation .div
        [.aggregate
            { statistic := .sum, column := some "droits", condition := .empty, subject := none },
          .aggregate
            { statistic := .sum, column := some " ", condition := .empty, subject := none }]) }]

theorem read_node : Indicator.read node = .ok indicator := by
  with_unfolding_all rfl

/-- The blank name is the one that stands in an object of its own. -/
theorem wellFormed_names_fees :
    Indicator.read node = .ok indicator ∧ indicator.WellFormed ∧
      (∀ table ∈ indicator.tables, isBlankName table = false) ∧
      ∃ ref ∈ indicator.references, ref.column = " " := by
  obtain ⟨hformed, htables, hcolumns, -⟩ := Indicator.wellFormed_names_of_read read_node
  refine ⟨read_node, hformed, htables, (hcolumns " " (by decide)).mpr ⟨unnamed, ?_, ?_⟩⟩
  · have hself : Expression.Holds unnamed unnamed := .self rfl
    exact ⟨_, _, _, _, rfl, rfl, List.mem_singleton_self _, rfl, rfl,
      .arg rfl rfl rfl (List.mem_cons_of_mem _ (List.mem_singleton_self _)) hself⟩
  · exact ⟨_, _, rfl, rfl, rfl⟩

/-- So an indicator is read although a column of it has no name. -/
theorem not_forall_isBlankName :
    ¬ ∀ (node : Json) (indicator : Indicator), Indicator.read node = .ok indicator →
      ∀ ref ∈ indicator.references, isBlankName ref.column = false := by
  intro h
  have hblank : isBlankName " " = true := by decide
  have hunnamed := h node indicator read_node { tables := ["inscriptions"], column := " " }
    (by decide)
  rw [hunnamed] at hblank
  cases hblank

end Fees

end Barometer
