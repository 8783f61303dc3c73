import Barometer.Imports.Register
import Barometer.Naming.Catalog
import Barometer.Naming.Configuration
import Barometer.Text.Quoted

/-!
# Resolution

For one request a logical table is the newest import whose tag fits, and a logical column is the
column of that import that bears its name or begins as it may begin.  The catalog holds exactly the
names that the indicator needs.
-/

namespace Barometer

/-- The tables of a database and their columns. -/
abbrev LiveTables := Dictionary (List String)

/-- The columns of a table; none if there is no such table. -/
def LiveTables.columnsOf (live : LiveTables) (table : String) : List String :=
  (Dictionary.get? live table).getD []

/-- What the database lacks. -/
inductive Shortage where
  | table (name : String) (tags : List String) (request : Request) (available : List String)
  | column (owner name : String) (beginnings : List String)
deriving DecidableEq, Repr

def Shortage.message : Shortage → String
  | .table name tags request available =>
    "no imported data for logical table '" ++ name ++ "' (requested tags: " ++
      Text.quotedList tags ++ ", period: " ++ Text.quotedOption request.period ++ ", year: " ++
      Text.quotedOption request.year ++ "; available tags: " ++ Text.quotedList available ++ ")"
  | .column owner name beginnings =>
    "no column of '" ++ owner ++ "' matches logical column '" ++ name ++ "' (prefixes: " ++
      Text.quotedList beginnings ++ ")"

/-- Whether a text occurs in another. -/
def occursIn (part : List Char) : List Char → Bool
  | [] => part.isEmpty
  | c :: rest => part.isPrefixOf (c :: rest) || occursIn part rest

/-- Whether a tag begins in one of the ways, ends as the period asks and contains the year. -/
def Configuration.accepts (config : Configuration) (tags : List String) (request : Request)
    (tag : String) : Bool :=
  tags.any (fun start ↦ start.toList.isPrefixOf tag.toList) &&
    (match request.period with
      | none => true
      | some period =>
        ((config.periods.get? period).getD period).toList.isSuffixOf tag.toList) &&
    (match request.year with
      | none => true
      | some year => occursIn year.toList tag.toList)

/-- The latest import; of several at one time the last one. -/
def latest? : List Import → Option Import
  | [] => none
  | record :: rest =>
    match latest? rest with
    | none => some record
    | some other => if other.time.before record.time then some record else some other

/-- The import that stands for a logical table. -/
def Configuration.resolveTable (config : Configuration) (register : List Import) (name : String)
    (tags : List String) (request : Request) : Except Shortage Import :=
  match latest? (register.filter fun record ↦ config.accepts tags request record.tag) with
  | some record => .ok record
  | none => .error (.table name tags request (tagsOf register))

/-- The columns that begin as a logical column may begin, in any case of letters. -/
def LogicalColumn.candidates (column : LogicalColumn) (live : List String) : List String :=
  live.filter fun name ↦ column.beginnings.any fun start ↦
    (Text.lower start).toList.isPrefixOf (Text.lower name).toList

/-- The first candidate with the first keyword that any candidate has; without keywords the first
candidate. -/
def LogicalColumn.choose? (column : LogicalColumn) (candidates : List String) : Option String :=
  (column.keywords.findSome? fun keyword ↦
    candidates.find? fun name ↦ occursIn (Text.lower keyword).toList (Text.lower name).toList).or
  candidates.head?

/-- The column of a table that stands for a logical column. -/
def LiveTables.resolveColumn (live : LiveTables) (table : String) (column : LogicalColumn) :
    Except Shortage String :=
  let names := live.columnsOf table
  if column.name ∈ names then .ok column.name
  else match column.choose? (column.candidates names) with
    | some name => .ok name
    | none => .error (.column table column.name column.beginnings)

namespace Configuration

/-- The first of the tables that knows a column. -/
def owner? (config : Configuration) (tables : List String) (column : String) :
    Option (String × LogicalColumn) :=
  tables.findSome? fun table ↦ (config.column? table column).map fun c ↦ (table, c)

/-- Adds the import of a table, if it is a logical one. -/
def addTable (config : Configuration) (register : List Import) (request : Request)
    (catalog : Catalog) (table : String) : Except Shortage Catalog :=
  match config.tables.get? table with
  | none => .ok catalog
  | some logical => do
    let record ← config.resolveTable register table logical.tags request
    return { catalog with tables := catalog.tables.insert table record.table }

/-- Adds a column to the catalog, if a table it is looked up in knows it and its name has not been
found yet. -/
def addReference (config : Configuration) (live : LiveTables) (catalog : Catalog)
    (ref : Reference) : Except Shortage Catalog :=
  match config.owner? ref.tables ref.column with
  | none => .ok catalog
  | some (owner, column) =>
    match catalog.tables.get? owner with
    | none => .ok catalog
    | some table =>
      if ((catalog.columns.get? owner).bind fun columns ↦ columns.get? ref.column).isSome then
        .ok catalog
      else do
        let name ← live.resolveColumn table column
        return catalog.addColumn owner ref.column name

/-- The names of tables, and of the columns looked up in the scopes. -/
def resolve (config : Configuration) (register : List Import) (live : LiveTables)
    (tables : List String) (request : Request) (scopes : List Scope) : Except Shortage Catalog := do
  let catalog ← tables.foldlM (config.addTable register request) Catalog.empty
  let references := scopes.flatMap fun scope ↦
    scope.columns.map fun column ↦ { tables := scope.tables, column }
  references.foldlM (config.addReference live) catalog

end Configuration

end Barometer
