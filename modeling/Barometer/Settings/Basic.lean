import Barometer.Compilation
import Barometer.Naming.Configuration

/-!
# Settings

Where the database is, how indicators are compiled, and what is known about logical tables.
-/

namespace Barometer

structure Settings where
  /-- The database file; references to variables in it are not yet replaced. -/
  database : Option String
  compilation : Options
  naming : Configuration
  logLevel : String
  logJson : Bool

/-- What makes settings unusable although they can be read. -/
inductive Conflict where
  | blankIdentityColumn
  | noTags (table : String)
  | noBeginnings (table column : String)
deriving DecidableEq, Repr

def Conflict.message : Conflict → String
  | .blankIdentityColumn => "compiler.identity_column must not be empty"
  | .noTags table => "schema.tables." ++ table ++ " has no data_types"
  | .noBeginnings table column =>
    "schema.tables." ++ table ++ ": column '" ++ column ++ "' has no prefixes"

/-- Why there are no settings. -/
inductive SettingsError where
  | notFound (path : String)
  | unreadable (reason : String)
  | malformed
  | missingVariable (name : String)
  | conflict (conflict : Conflict)
deriving DecidableEq, Repr

def SettingsError.message : SettingsError → String
  | .notFound path => "Config file not found: " ++ path
  | .unreadable reason => "Failed to read config file: " ++ reason
  | .malformed => "Failed to parse config file"
  | .missingVariable name => "Missing environment variable: " ++ name
  | .conflict c => "Invalid configuration: " ++ c.message

namespace Settings

def default : Settings where
  database := none
  compilation := .default
  naming := .empty
  logLevel := "info"
  logJson := false

/-- What is wrong with a logical table. -/
def tableConflict? (name : String) (table : LogicalTable) : Option Conflict :=
  if table.tags.isEmpty then some (.noTags name)
  else (table.columns.find? fun c ↦ c.beginnings.isEmpty).map fun c ↦ .noBeginnings name c.name

/-- The first thing that is wrong: the identity column, then the tables in order. -/
def conflict? (settings : Settings) : Option Conflict :=
  if isBlankName settings.compilation.identityColumn then some .blankIdentityColumn
  else settings.naming.tables.findSome? fun entry ↦ tableConflict? entry.1 entry.2

end Settings

end Barometer
