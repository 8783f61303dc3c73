import Barometer.Session
import Mathlib.Data.List.Forall2
import Mathlib.Logic.Function.Iterate

/-!
# The slots of a report

A report shows its slots in the order of display, and those of one order as the definition has them.
Each slot has a session of its own, so what becomes of it depends on the database and on itself, and
where it stands on the orders of display alone.
-/

namespace Barometer

namespace Slot

/-- Whether a slot may stand before another one. -/
def leOrder (a b : Slot) : Bool := decide (a.displayOrder ≤ b.displayOrder)

theorem leOrder_trans (a b c : Slot) (hab : a.leOrder b) (hbc : b.leOrder c) : a.leOrder c := by
  unfold leOrder at *
  exact decide_eq_true (Int.le_trans (of_decide_eq_true hab) (of_decide_eq_true hbc))

theorem leOrder_total (a b : Slot) : a.leOrder b || b.leOrder a := by
  unfold leOrder
  rw [Bool.or_eq_true, decide_eq_true_eq, decide_eq_true_eq]
  exact Int.le_total _ _

end Slot

namespace ReportDefinition

variable (definition : ReportDefinition)

theorem orderedSlots_eq : definition.orderedSlots = definition.slots.mergeSort Slot.leOrder :=
  rfl

theorem orderedSlots_perm : definition.orderedSlots.Perm definition.slots :=
  List.mergeSort_perm _ _

/-- No slot is shown before one of a lesser order. -/
theorem pairwise_orderedSlots :
    definition.orderedSlots.Pairwise fun a b ↦ a.displayOrder ≤ b.displayOrder := by
  rw [orderedSlots_eq]
  exact (List.pairwise_mergeSort Slot.leOrder_trans Slot.leOrder_total _).imp of_decide_eq_true

/-- Slots of one order are in the order of the definition. -/
theorem filter_orderedSlots (order : Int) :
    definition.orderedSlots.filter (·.displayOrder = order) =
      definition.slots.filter (·.displayOrder = order) := by
  have hsame : (definition.slots.filter (·.displayOrder = order)).Pairwise
      fun a b ↦ Slot.leOrder a b := by
    refine List.pairwise_of_forall_mem_list fun a ha b hb ↦ ?_
    have hao : a.displayOrder = order := by simpa using (List.mem_filter.mp ha).2
    have hbo : b.displayOrder = order := by simpa using (List.mem_filter.mp hb).2
    exact decide_eq_true (Int.le_of_eq (hao.trans hbo.symm))
  have hsublist := (List.sublist_mergeSort Slot.leOrder_trans Slot.leOrder_total hsame
    List.filter_sublist).filter (·.displayOrder = order)
  rw [List.filter_filter] at hsublist
  simp only [Bool.and_self] at hsublist
  exact (hsublist.eq_of_length (definition.orderedSlots_perm.filter _).length_eq.symm).symm

/-- Two lists side by side that differ in one slot. -/
def sides (front back : List Slot) (slot slot' : Slot) : List (Slot × Slot) :=
  front.map (fun x ↦ (x, x)) ++ (slot, slot') :: back.map fun x ↦ (x, x)

section Sides

variable {front back : List Slot} {slot slot' : Slot}

theorem map_fst_sides : (sides front back slot slot').map Prod.fst = front ++ slot :: back := by
  simp [sides, Function.comp_def]

theorem map_snd_sides : (sides front back slot slot').map Prod.snd = front ++ slot' :: back := by
  simp [sides, Function.comp_def]

theorem order_eq_of_mem_sides (h : slot.displayOrder = slot'.displayOrder) {p : Slot × Slot}
    (hp : p ∈ sides front back slot slot') : p.1.displayOrder = p.2.displayOrder := by
  rcases List.mem_append.mp hp with hp | hp
  · obtain ⟨x, -, rfl⟩ := List.mem_map.mp hp
    rfl
  · rcases List.mem_cons.mp hp with rfl | hp
    · exact h
    · obtain ⟨x, -, rfl⟩ := List.mem_map.mp hp
      rfl

/-- In any arrangement of the two lists the other slots are the same on both sides. -/
theorem exists_split_of_perm_sides {pairs : List (Slot × Slot)}
    (h : pairs.Perm (sides front back slot slot')) :
    ∃ before after, pairs.map Prod.fst = before ++ slot :: after ∧
      pairs.map Prod.snd = before ++ slot' :: after := by
  have hmem : (slot, slot') ∈ pairs :=
    h.mem_iff.mpr (List.mem_append_right _ List.mem_cons_self)
  obtain ⟨before, after, rfl⟩ := List.append_of_mem hmem
  have hothers : (before ++ after).Perm ((front ++ back).map fun x ↦ (x, x)) := by
    rw [List.map_append]
    exact (List.perm_middle.symm.trans (h.trans List.perm_middle)).cons_inv
  have hsame : ∀ p ∈ before ++ after, p.2 = p.1 := by
    intro p hp
    obtain ⟨x, -, rfl⟩ := List.mem_map.mp (hothers.mem_iff.mp hp)
    rfl
  have hbefore : before.map Prod.snd = before.map Prod.fst :=
    List.map_congr_left fun p hp ↦ hsame p (List.mem_append_left _ hp)
  have hafter : after.map Prod.snd = after.map Prod.fst :=
    List.map_congr_left fun p hp ↦ hsame p (List.mem_append_right _ hp)
  refine ⟨before.map Prod.fst, after.map Prod.fst, ?_, ?_⟩
  · rw [List.map_append, List.map_cons]
  · rw [List.map_append, List.map_cons, hbefore, hafter]

/-- Where slots stand depends on the orders of display alone. -/
theorem exists_mergeSort_replace (front back : List Slot)
    (h : slot.displayOrder = slot'.displayOrder) :
    ∃ before after, (front ++ slot :: back).mergeSort Slot.leOrder = before ++ slot :: after ∧
      (front ++ slot' :: back).mergeSort Slot.leOrder = before ++ slot' :: after := by
  have hfirst : ∀ p ∈ sides front back slot slot', ∀ q ∈ sides front back slot slot',
      p.1.leOrder q.1 = p.1.leOrder q.1 := fun _ _ _ _ ↦ rfl
  have hsecond : ∀ p ∈ sides front back slot slot', ∀ q ∈ sides front back slot slot',
      p.1.leOrder q.1 = p.2.leOrder q.2 := by
    intro p hp q hq
    rw [Slot.leOrder, order_eq_of_mem_sides h hp, order_eq_of_mem_sides h hq, Slot.leOrder]
  -- Both lists are sorted as the two sides of one list of pairs.
  obtain ⟨before, after, hbefore, hafter⟩ := exists_split_of_perm_sides
    (List.mergeSort_perm (sides front back slot slot') fun p q ↦ p.1.leOrder q.1)
  refine ⟨before, after, ?_, ?_⟩
  · rw [← hbefore, List.map_mergeSort hfirst, map_fst_sides]
  · rw [← hafter, List.map_mergeSort hsecond, map_snd_sides]

end Sides

end ReportDefinition

namespace Report

/-- What the indicator of a slot yields by itself, on a database that is opened for it. -/
def runAlone (source : Source) (options : RunOptions) (slot : Slot) : Except Failure ResultSet := do
  let db ← source.mapError .fault
  db.runJson options slot.indicator

/-- What a report says of a slot: the result of its indicator, marked with its number and title, or
the text of the failure, without rows. -/
inductive Tells (slot : Slot) : Except Failure ResultSet → SlotResult → Prop
  | success (result : ResultSet) : Tells slot (.ok result) {
      indicatorId := slot.id
      indicatorTitle := slot.title
      chartType := slot.chartType
      outcome := .success
        { result with indicatorId := some slot.id, indicatorTitle := some slot.title } }
  | failure (failure : Failure) : Tells slot (.error failure) {
      indicatorId := slot.id
      indicatorTitle := slot.title
      chartType := slot.chartType
      outcome := .failure { error := failure.message, rows := [], columns := [], rowCount := 0 } }

/-- What a report says of a slot does not depend on the other slots. -/
theorem tells_slotResult (source : Source) (options : RunOptions) (slot : Slot) :
    Tells slot (runAlone source options slot) (slotResult source options slot) := by
  have hslot : runSlot source options slot = (runAlone source options slot).map fun result ↦
      { result with indicatorId := some slot.id, indicatorTitle := some slot.title } := by
    cases source <;> rfl
  rw [slotResult, outcomeOf, hslot]
  cases runAlone source options slot with
  | ok result => exact .success result
  | error failure => exact .failure failure

/-- Of a statement that comes to nothing the failure tells what the database says of it. -/
theorem runAlone_of_execute {db : Store.Database} {options : RunOptions} {slot : Slot}
    {indicator : Indicator} {query : Sql.Query} {statement : String} {cause : Store.Cause}
    (hread : Indicator.read slot.indicator = .ok indicator)
    (hcompiles : indicator.toQuery options.compilation = .ok query)
    (hstatement : query.statement options.compilation.dialect = statement)
    (hnaming : options.naming.covers indicator.tables = false)
    (hexecute : db.execute options.compilation.dialect query = .error cause) :
    runAlone (.ok db) options slot =
      .error (.fault (.failed statement (db.complaint cause statement))) := by
  have hcatalog : db.catalogOf options.naming options.request indicator = .ok .empty := by
    rw [Store.Database.catalogOf, hnaming]
    rfl
  have hrun : db.run options.compilation.dialect query =
      .error (.failed statement (db.complaint cause statement)) := by
    rw [Store.Database.run, hexecute, hstatement]
    rfl
  calc
    runAlone (.ok db) options slot = db.runJson options slot.indicator := rfl
    _ = db.runIndicator options indicator := by
      rw [Store.Database.runJson, hread]
      rfl
    _ = (db.run options.compilation.dialect query).mapError .fault >>= fun result ↦
        .ok (.ofStore (query.statement options.compilation.dialect) result) := by
      rw [Store.Database.runIndicator, hcompiles, hcatalog]
      rfl
    _ = .error (.fault (.failed statement (db.complaint cause statement))) := by
      rw [hrun]
      rfl

section Sessions

variable {σ : Type} {session : StateM σ Source} {source : Source}

/-- The state after a number of sessions. -/
def stateAfter (session : StateM σ Source) (count : Nat) (s : σ) : σ :=
  (fun s ↦ (session.run s).2)^[count] s

/-- Each step has a session, and all of them the same database. -/
theorem run_mapM_session (hsession : ∀ s, (session.run s).1 = source) (f : Source → α → β)
    (xs : List α) (s : σ) :
    (xs.mapM fun x ↦ do return f (← session) x : StateM σ (List β)).run s =
      (xs.map (f source), stateAfter session xs.length s) := by
  induction xs generalizing s with
  | nil => rfl
  | cons x rest ih =>
    have hfirst : (do return f (← session) x : StateM σ β).run s =
        (f source x, (session.run s).2) :=
      congrArg (fun opened ↦ (f opened x, (session.run s).2)) (hsession s)
    rw [List.mapM_cons, StateT.run_bind, hfirst]
    change ((rest.mapM fun x ↦ do return f (← session) x : StateM σ (List β)) >>= fun ys ↦
      pure (f source x :: ys)).run (session.run s).2 = _
    rw [StateT.run_bind, ih]
    rfl

/-- If all sessions have the same database it does not matter how many there are. -/
theorem run_generateWith (hsession : ∀ s, (session.run s).1 = source) (options : RunOptions)
    (now : StateM σ Timestamp) (definition : ReportDefinition) (s : σ) :
    (generateWith session options now definition).run s =
      let s' := stateAfter session definition.slots.length s
      (generate source options (now.run s').1 definition, (now.run s').2) := by
  have hlength : definition.orderedSlots.length = definition.slots.length :=
    definition.orderedSlots_perm.length_eq
  have hresults := run_mapM_session hsession (slotResult · options) definition.orderedSlots s
  rw [hlength] at hresults
  rw [generateWith, StateT.run_bind, hresults]
  rfl

/-- Another indicator in a slot changes what is said of this slot and nothing else. -/
theorem exists_generate_replace (source : Source) (options : RunOptions) (time time' : Timestamp)
    {definition : ReportDefinition} {front back : List Slot} {slot : Slot}
    (h : definition.slots = front ++ slot :: back) (indicator : Json) :
    ∃ before after told told',
      (generate source options time definition).results = before ++ told :: after ∧
      (generate source options time' { definition with
        slots := front ++ { slot with indicator } :: back }).results = before ++ told' :: after ∧
      Tells slot (runAlone source options slot) told ∧
      Tells { slot with indicator } (runAlone source options { slot with indicator }) told' := by
  obtain ⟨before, after, hsorted, hsorted'⟩ := ReportDefinition.exists_mergeSort_replace front back
    (rfl : slot.displayOrder = { slot with indicator }.displayOrder)
  refine ⟨before.map (slotResult source options), after.map (slotResult source options), _, _,
    ?_, ?_, tells_slotResult source options slot, tells_slotResult source options _⟩
  · rw [generate, ReportDefinition.orderedSlots_eq, h, hsorted, List.map_append, List.map_cons]
  · rw [generate, ReportDefinition.orderedSlots_eq, hsorted', List.map_append, List.map_cons]

/-- A report runs each of its slots once, in a session of its own, and says of each what it yields
by itself. The slots are in the order of display, and those of one order as in the definition.
Another indicator in one of them, be it well formed or not, changes nothing else. -/
theorem generateWith_slots (hsession : ∀ s, (session.run s).1 = source) (options : RunOptions)
    (now : StateM σ Timestamp) (definition : ReportDefinition) (s : σ) :
    ∃ slots : List Slot, slots.Perm definition.slots ∧
      slots.Pairwise (fun a b ↦ a.displayOrder ≤ b.displayOrder) ∧
      (∀ order, slots.filter (·.displayOrder = order) =
        definition.slots.filter (·.displayOrder = order)) ∧
      List.Forall₂ (fun slot told ↦ Tells slot (runAlone source options slot) told) slots
        ((generateWith session options now definition).run s).1.results ∧
      ((generateWith session options now definition).run s).2 =
        (now.run (stateAfter session definition.slots.length s)).2 ∧
      ∀ front slot back indicator, definition.slots = front ++ slot :: back →
        ∃ before after told told',
          ((generateWith session options now definition).run s).1.results =
            before ++ told :: after ∧
          ((generateWith session options now { definition with
            slots := front ++ { slot with indicator } :: back }).run s).1.results =
            before ++ told' :: after ∧
          Tells slot (runAlone source options slot) told ∧
          Tells { slot with indicator } (runAlone source options { slot with indicator })
            told' := by
  simp only [run_generateWith hsession]
  refine ⟨definition.orderedSlots, definition.orderedSlots_perm, definition.pairwise_orderedSlots,
    definition.filter_orderedSlots, ?_, trivial, fun front slot back indicator h ↦ ?_⟩
  · rw [generate, List.forall₂_map_right_iff, List.forall₂_same]
    exact fun slot _ ↦ tells_slotResult source options slot
  · exact exists_generate_replace source options _ _ h indicator

end Sessions

namespace Gap

def people : Store.Database where
  tables := [{ name := "t", columns := ["genre"], rows := [[.text "f"], [.text "m"]] }]
  complaint _ statement := "no such column: bourse in " ++ statement ++ " at offset 36"

/-- The number of sessions so far is counted. -/
def session : StateM Nat Source := do
  modify (· + 1)
  return .ok people

def options : RunOptions :=
  { compilation := { Options.default with dialect := .sqlite }, naming := .empty, request := .any }

/-- Counts the rows of the table under some conditions. -/
def count (conditions : Json.Members) : Json :=
  .object [("sujet", .object (("tables", .ofStrings ["t"]) :: conditions)),
    ("colonnes", .array [.object [("type", .string "aggregation"), ("titre", .string "N"),
      ("expr", .object [("agg", .string "count")])]])]

def grants : Json :=
  count [("conditions", .object [("=", .array [.object [("col", .string "bourse")],
    .string "oui"])])]

def slot (id order : Int) (indicator : Json) : Slot where
  id := id
  title := "Indicateur"
  chartType := some "bar"
  displayOrder := order
  indicator := indicator

def definition : ReportDefinition where
  id := 3
  title := "Bilan"
  slots := [slot 10 2 (count []), slot 11 1 grants, slot 12 2 (count [])]

/-- What is compiled from the indicator of the slot that is shown first. -/
def query : Sql.Query where
  select := [{ expr := .call "COUNT" [.star] false, label := some "N" }]
  source := some "t"
  joins := []
  filter := some (.compare .eq (.column none "bourse") (.literal (.text "oui")))
  groupBy := []

/-- What is read from the indicator of the slot that is shown first. -/
def indicator : Indicator where
  subject :=
    { tables := ["t"]
      conditions := .compare .eq (.column "bourse") (.literal (.text "oui")) }
  columns :=
    [{ title := "N"
       body := .aggregation (.aggregate
        { statistic := .count, column := none, condition := .empty, subject := none }) }]

def statement : String := "SELECT COUNT(*) AS \"N\" FROM t WHERE bourse = 'oui';"

/-- The table has no such column, and the failure repeats what the database says of it. -/
theorem runAlone_grants : runAlone (.ok people) options (slot 11 1 grants) =
    .error (.fault (.failed statement (people.complaint .rejected statement))) := by
  have hread : Indicator.read grants = .ok indicator := by with_unfolding_all rfl
  have hcompiles : indicator.toQuery options.compilation = .ok query := by with_unfolding_all rfl
  have hstatement : query.statement .sqlite = statement := by decide +kernel
  have hexecute : people.execute .sqlite query = .error .rejected := rfl
  exact runAlone_of_execute hread hcompiles hstatement rfl hexecute

/-- Three slots, of which the one that is shown first asks for a column that there is not, and then
gets an indicator without a subject. -/
theorem generateWith_slots_gap :
    (∀ s, (session.run s).1 = .ok people) ∧
      definition.slots = [slot 10 2 (count [])] ++ slot 11 1 grants :: [slot 12 2 (count [])] ∧
      ((generateWith session options (pure .epoch) definition).run 0).2 = 3 ∧
      ∃ before after told told',
        ((generateWith session options (pure .epoch) definition).run 0).1.results =
          before ++ told :: after ∧
        ((generateWith session options (pure .epoch) { definition with
          slots := [slot 10 2 (count [])] ++ { slot 11 1 grants with indicator := .object [] } ::
            [slot 12 2 (count [])] }).run 0).1.results = before ++ told' :: after ∧
        told.indicatorId = 11 ∧ told'.indicatorId = 11 ∧
        told.outcome.error? = some ("query failed: no such column: bourse in " ++
          "SELECT COUNT(*) AS \"N\" FROM t WHERE bourse = 'oui'; at offset 36") ∧
        told'.outcome.error? = some "missing required key 'sujet' in indicator: \x7b\x7d" := by
  have hsession : ∀ s, (session.run s).1 = .ok people := fun _ ↦ rfl
  obtain ⟨slots, -, -, -, -, hcount, hreplace⟩ :=
    generateWith_slots hsession options (pure .epoch) definition 0
  obtain ⟨before, after, told, told', hresults, hresults', htold, htold'⟩ :=
    hreplace [slot 10 2 (count [])] (slot 11 1 grants) [slot 12 2 (count [])] (.object []) rfl
  have hfails : runAlone (.ok people) options { slot 11 1 grants with indicator := .object [] } =
      .error (.defect (.lacking .indicator "sujet" (.object []))) := rfl
  rw [runAlone_grants] at htold
  rw [hfails] at htold'
  cases htold
  cases htold'
  exact ⟨hsession, rfl, hcount, before, after, _, _, hresults, hresults', rfl, rfl, rfl, rfl⟩

end Gap

end Report

end Barometer
