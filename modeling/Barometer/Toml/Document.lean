import Barometer.Toml.Basic

/-!
# Tables and their keys

A document opens tables and gives values to keys.  A key may have several parts, and each part but
the last leads into a table.  No key gets two values, no table is opened twice, and a table that was
made in one way is not added to in another.
-/

namespace Barometer.Toml

/-- How a table came into being. -/
inductive Origin where
  /-- By a heading that goes through it. -/
  | passed
  /-- By a key that goes through it. -/
  | dotted
  /-- By a heading of its own. -/
  | opened
deriving DecidableEq, Repr

inductive Node where
  | value (value : Toml)
  | table (origin : Origin) (entries : List (String × Node))
  | tables (items : List (List (String × Node)))

abbrev Entries := List (String × Node)

/-- Replaces the entry of a key. -/
def setEntry (key : String) (node : Node) (entries : Entries) : Entries :=
  entries.map fun entry ↦ if entry.1 = key then (key, node) else entry

/-- Gives a value to a key. -/
def assign (value : Toml) : List String → Entries → Option Entries
  | [], _ => none
  | [key], entries =>
    match entries.lookup key with
    | none => some (entries ++ [(key, .value value)])
    | some _ => none
  | key :: next :: rest, entries =>
    match entries.lookup key with
    | none => (assign value (next :: rest) []).map fun inner ↦
      entries ++ [(key, .table .dotted inner)]
    | some (.table origin inner) =>
      if origin = .opened ∨ rest = [] ∧ origin ≠ .dotted then none
      else (assign value (next :: rest) inner).map fun inner ↦
        setEntry key (.table origin inner) entries
    | some _ => none

/-- Changes the last item of a list. -/
def changeLast (f : α → Option α) : List α → Option (List α)
  | [] => none
  | [item] => (f item).map fun changed ↦ [changed]
  | item :: rest => (changeLast f rest).map (item :: ·)

/-- Changes the table that a path leads to, through the last of several tables of one name. -/
def within (change : Entries → Option Entries) : List String → Entries → Option Entries
  | [], entries => change entries
  | key :: rest, entries =>
    match entries.lookup key with
    | none => (within change rest []).map fun inner ↦ entries ++ [(key, .table .passed inner)]
    | some (.table origin inner) => (within change rest inner).map fun inner ↦
      setEntry key (.table origin inner) entries
    | some (.tables items) => (changeLast (within change rest) items).map fun items ↦
      setEntry key (.tables items) entries
    | some (.value _) => none

/-- Opens a table. -/
def openTable (key : String) (entries : Entries) : Option Entries :=
  match entries.lookup key with
  | none => some (entries ++ [(key, .table .opened [])])
  | some (.table .passed inner) => some (setEntry key (.table .opened inner) entries)
  | some _ => none

/-- Opens one more table of a name. -/
def openItem (key : String) (entries : Entries) : Option Entries :=
  match entries.lookup key with
  | none => some (entries ++ [(key, .tables [[]])])
  | some (.tables items) => some (setEntry key (.tables (items ++ [[]])) entries)
  | some _ => none

mutual

def Node.toToml : Node → Toml
  | .value v => v
  | .table _ entries => .table (tomlEntries entries)
  | .tables items => .array (tomlItems items)

def tomlEntries : Entries → List (String × Toml)
  | [] => []
  | (key, node) :: rest => (key, node.toToml) :: tomlEntries rest

def tomlItems : List Entries → List Toml
  | [] => []
  | entries :: rest => .table (tomlEntries entries) :: tomlItems rest

end

/-- A line of a document. -/
inductive Statement where
  | table (path : List String)
  | item (path : List String)
  | assignment (path : List String) (value : Toml)

/-- What has been read of a document, and the table that assignments go to. -/
structure Progress where
  root : Entries
  current : List String

def Statement.apply (progress : Progress) : Statement → Option Progress
  | .table path => do
    let root ← within (openTable (path.getLastD "")) path.dropLast progress.root
    return { root, current := path }
  | .item path => do
    let root ← within (openItem (path.getLastD "")) path.dropLast progress.root
    return { root, current := path }
  | .assignment path value => do
    let root ← within (assign value path) progress.current progress.root
    return { progress with root }

/-- The table of a whole document. -/
def ofStatements (statements : List Statement) : Option Toml :=
  (statements.foldlM Statement.apply { root := [], current := [] }).map fun progress ↦
    .table (tomlEntries progress.root)

/-- The table of the assignments between two braces. -/
def ofAssignments (assignments : List (List String × Toml)) : Option Toml :=
  (assignments.foldlM (fun entries pair ↦ assign pair.2 pair.1 entries) []).map fun entries ↦
    .table (tomlEntries entries)

end Barometer.Toml
