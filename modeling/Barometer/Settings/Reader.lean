import Barometer.Settings.Basic
import Barometer.Settings.Expansion
import Barometer.Toml.Parser

/-!
# Reading settings

Every setting has a default, except for the four names of a join rule.  A section may be a table or,
as a short form, the list of its settings in order; settings that are not known are passed over.
-/

namespace Barometer.Settings

def readText? : Toml → Option String
  | .text s => some s
  | _ => none

def readBool? : Toml → Option Bool
  | .bool b => some b
  | _ => none

def readList? (item : Toml → Option α) : Toml → Option (List α)
  | .array items => items.mapM item
  | _ => none

/-- The settings of a section under the names it knows. -/
def fields? (names : List String) : Toml → Option (List (String × Toml))
  | .table entries => some entries
  | .array items => some (names.zip items)
  | _ => none

/-- A setting that may be absent. -/
def setting (fields : List (String × Toml)) (name : String) (read : Toml → Option α)
    (default : α) : Option α :=
  match fields.lookup name with
  | none => some default
  | some v => read v

/-- A setting that must be present. -/
def required (fields : List (String × Toml)) (name : String) (read : Toml → Option α) : Option α :=
  (fields.lookup name).bind read

def readColumn? (t : Toml) : Option LogicalColumn := do
  let fields ← fields? ["name", "prefixes", "priority"] t
  return {
    name := ← setting fields "name" readText? ""
    beginnings := ← setting fields "prefixes" (readList? readText?) []
    keywords := ← setting fields "priority" (readList? readText?) [] }

def readTable? (t : Toml) : Option LogicalTable := do
  let fields ← fields? ["data_types", "columns"] t
  return {
    tags := ← setting fields "data_types" (readList? readText?) []
    columns := ← setting fields "columns" (readList? readColumn?) [] }

/-- The entries of a table by key. -/
def readDictionary? (read : Toml → Option α) : Toml → Option (Dictionary α)
  | .table entries => do
    let pairs ← entries.mapM fun (key, v) ↦ (read v).map fun value ↦ (key, value)
    return Dictionary.ofList pairs
  | _ => none

def readNaming? (t : Toml) : Option Configuration := do
  let fields ← fields? ["periods", "tables"] t
  return {
    periods := ← setting fields "periods" (readDictionary? readText?) []
    tables := ← setting fields "tables" (readDictionary? readTable?) [] }

def readJoin? (t : Toml) : Option JoinRule := do
  let fields ← fields? ["left", "right", "left_column", "right_column"] t
  return {
    left := ← required fields "left" readText?
    right := ← required fields "right" readText?
    leftColumn := ← required fields "left_column" readText?
    rightColumn := ← required fields "right_column" readText? }

/-- The dialect of exactly that name. -/
def dialect? (name : String) : Option Sql.Dialect :=
  [Sql.Dialect.postgres, .sqlite].find? fun d ↦ d.name = name

/-- A dialect by its name, or by a table with nothing under its name. -/
def readDialect? : Toml → Option Sql.Dialect
  | .text name => dialect? name
  | .table [(name, .table [])] => dialect? name
  | .table [(name, .array [])] => dialect? name
  | _ => none

def readCompilation? (t : Toml) : Option Options := do
  let fields ← fields? ["dialect", "identity_column", "joins"] t
  return {
    dialect := ← setting fields "dialect" readDialect? Options.default.dialect
    identityColumn :=
      ← setting fields "identity_column" readText? Options.default.identityColumn
    joins := ← setting fields "joins" (readList? readJoin?) Options.default.joins }

def readDatabase? (t : Toml) : Option (Option String) := do
  let fields ← fields? ["path"] t
  setting fields "path" (fun v ↦ (readText? v).map some) none

def readLogging? (t : Toml) : Option (String × Bool) := do
  let fields ← fields? ["level", "json"] t
  return (← setting fields "level" readText? default.logLevel,
    ← setting fields "json" readBool? default.logJson)

def read? (t : Toml) : Option Settings := do
  let fields ← fields? ["database", "compiler", "schema", "logging"] t
  let (logLevel, logJson) ←
    setting fields "logging" readLogging? (default.logLevel, default.logJson)
  return {
    database := ← setting fields "database" readDatabase? none
    compilation := ← setting fields "compiler" readCompilation? .default
    naming := ← setting fields "schema" readNaming? .empty
    logLevel
    logJson }

/-- The settings of a text, if they can be used. -/
def ofText (text : String) : Except SettingsError Settings :=
  match (Toml.parse? text).bind read? with
  | none => .error .malformed
  | some settings =>
    match settings.conflict? with
    | some c => .error (.conflict c)
    | none => .ok settings

/-- The database file with the references in it replaced. -/
def databasePath (valueOf : String → Option String) (settings : Settings) :
    Except SettingsError (Option String) :=
  match settings.database with
  | none => .ok none
  | some path =>
    match Expansion.expand valueOf path with
    | .ok expanded => .ok (some expanded)
    | .error name => .error (.missingVariable name)

end Barometer.Settings
