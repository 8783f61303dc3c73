import Barometer.CommandLine.Arguments
import Barometer.Session
import Barometer.Settings.Reader
import Barometer.Store.Document

/-!
# The program

What a command does, given the files and variables around it.  Settings are looked for first, then
the file of the command is read, then the database is opened.
-/

namespace Barometer.CommandLine

/-- Why a file cannot be read. -/
inductive FileFault where
  | absent
  | directory
  | throughFile
  | forbidden
  | notText
deriving DecidableEq, Repr

def FileFault.message : FileFault → String
  | .absent => "No such file or directory (os error 2)"
  | .directory => "Is a directory (os error 21)"
  | .throughFile => "Not a directory (os error 20)"
  | .forbidden => "Permission denied (os error 13)"
  | .notText => "stream did not contain valid UTF-8"

/-- Whether there is a file or directory although it cannot be read. -/
def FileFault.isThere : FileFault → Bool
  | .absent => false
  | .throughFile => false
  | .directory => true
  | .forbidden => true
  | .notText => true

/-- What is around the program. -/
structure Surroundings (m : Type → Type) where
  read : String → m (Except FileFault String)
  valueOf : String → m (Option String)
  now : m Timestamp
  /-- What a database says of what goes wrong at a path or at a statement. -/
  complaint : Store.Cause → String → String

/-- How the program ends: its code, what it prints, and what it reports as an error. -/
structure Outcome where
  code : Nat
  output : String
  error : Option String
deriving DecidableEq, Repr

/-- Why a command fails: by what it was given, or by what the library says. -/
inductive Trouble where
  | input (message : String)
  | failure (failure : Failure)

def Trouble.line : Trouble → String
  | .input message => "error: " ++ message
  | .failure f => "error[" ++ f.kind ++ "]: " ++ f.message

variable {m : Type → Type} [Monad m]

def settingsVariable : String := "INDICATOR_SQL_CONFIG"

def localSettings : String := "indicators.toml"

def settingsOf (contents : Except FileFault String) (path : String) :
    Except SettingsError Settings :=
  match contents with
  | .ok text => Settings.ofText text
  | .error fault =>
    .error (if fault.isThere then .unreadable fault.message else .notFound path)

/-- The settings of a file; none if there is no such file. -/
def settingsAt? (around : Surroundings m) (path : String) :
    m (Option (Except SettingsError Settings)) := do
  let contents ← around.read path
  return match contents with
    | .ok _ => some (settingsOf contents path)
    | .error fault => if fault.isThere then some (settingsOf contents path) else none

/-- The directory of the user's settings. -/
def userDirectory (valueOf : String → Option String) : Option String :=
  match valueOf "XDG_CONFIG_HOME" with
  | some path => if path.startsWith "/" then some path else homeDirectory
  | none => homeDirectory
where
  homeDirectory := (valueOf "HOME").bind fun home ↦
    if home.isEmpty then none else some (home ++ "/.config")

/-- The values of some variables. -/
def valuesOf (around : Surroundings m) (names : List String) : m (String → Option String) := do
  let values ← names.mapM fun name ↦ do return (name, ← around.valueOf name)
  return fun name ↦ (values.lookup name).join

/-- The settings of the first of the usual files that exists, or else the defaults. -/
def usualSettings (around : Surroundings m) : m (Except SettingsError Settings) := do
  match ← settingsAt? around localSettings with
  | some settings => return settings
  | none =>
    match userDirectory (← valuesOf around ["XDG_CONFIG_HOME", "HOME"]) with
    | none => return .ok .default
    | some directory =>
      return (← settingsAt? around (directory ++ "/indicator-sql/config.toml")).getD (.ok .default)

/-- The settings of the named file, of the one that a variable names, or the usual ones. -/
def loadSettings (around : Surroundings m) (named : Option String) :
    m (Except SettingsError Settings) := do
  match named.or (← around.valueOf settingsVariable) with
  | some path => return settingsOf (← around.read path) path
  | none => usualSettings around

/-- The directory that a path lies in. -/
def directoryOf (path : String) : String :=
  let name := path.toList.reverse.takeWhile (· != '/')
  match path.toList.take (path.length - name.length) with
  | [] => "."
  | directory => String.ofList directory

/-- The database that a document holds. -/
def databaseOf (text : String) : Except Store.Cause Store.Database :=
  if text.isEmpty then .ok .empty
  else match Json.parse text with
    | .ok v => .ok (.ofJson v)
    | .error _ => .error .foreign

/-- The database at a path.  One that does not exist is empty, if there is a directory for it. -/
def databaseAt (around : Surroundings m) (path : String) :
    m (Except Store.Cause Store.Database) := do
  if path.isEmpty || path = ":memory:" then return .ok .empty
  else match ← around.read path with
    | .ok text => return databaseOf text
    | .error .notText => return .error .foreign
    | .error .absent =>
      match ← around.read (directoryOf path) with
      | .error .directory => return .ok .empty
      | _ => return .error .absent
    | .error _ => return .error .absent

/-- The fault of a database at a path.  That a file holds something else is only seen when it is
asked. -/
def faultAt (around : Surroundings m) (path : String) : Store.Cause → Store.Fault
  | .foreign => .failed "" (around.complaint .foreign path)
  | cause => .unopened path (around.complaint cause path)

/-- Opens a database, which speaks as databases do around the program. -/
def openDatabase (around : Surroundings m) (path : String) : m Report.Source := do
  match ← databaseAt around path with
  | .ok db => return .ok { db with complaint := around.complaint }
  | .error cause => return .error (faultAt around path cause)

/-- What a command prints, or its trouble. -/
abbrev Action (m : Type → Type) := ExceptT Trouble m

def fail (failure : Failure) : Action m α := throw (.failure failure)

def orFail (result : Except Failure α) : Action m α :=
  match result with
  | .ok x => pure x
  | .error failure => fail failure

def readInput (around : Surroundings m) (file : String) : Action m String := do
  match ← (around.read file : m _) with
  | .ok text => return text
  | .error fault => throw (.input ("cannot read '" ++ file ++ "': " ++ fault.message))

def readJson (around : Surroundings m) (file : String) : Action m Json := do
  match Json.parse (← readInput around file) with
  | .ok v => return v
  | .error e => throw (.input ("'" ++ file ++ "' is not valid JSON: " ++ e.message))

/-- The database that the command names, or else the one of the settings. -/
def databasePath (around : Surroundings m) (settings : Settings) (named : Option String) :
    Action m String := do
  match named with
  | some path => return path
  | none =>
    let valueOf ← (valuesOf around (Expansion.names (settings.database.getD "")) : m _)
    match ← orFail ((settings.databasePath valueOf).mapError .settings) with
    | some path => return path
    | none => throw (.input "no database: pass --database or set [database] path")

def compileFile (around : Surroundings m) (settings : Settings) (file : String)
    (dialect : Option Sql.Dialect) : Action m String := do
  let v ← readJson around file
  let options := { settings.compilation with
    dialect := dialect.getD settings.compilation.dialect }
  let statement ← orFail <| ((Indicator.read v).bind (·.toStatement options)).mapError .defect
  return statement ++ "\n"

def runFile (around : Surroundings m) (settings : Settings) (file : String)
    (database : Option String) (request : Request) : Action m String := do
  let v ← readJson around file
  let path ← databasePath around settings database
  let source ← (openDatabase around path : m _)
  let db ← orFail (source.mapError .fault)
  let result ← orFail (db.runJson (.ofSettings settings request) v)
  return result.toJson.pretty ++ "\n"

def reportFile (around : Surroundings m) (settings : Settings) (file : String)
    (database : Option String) (format : Format) : Action m String := do
  let text ← readInput around file
  match ReportDefinition.ofText text with
  | .error message => throw (.input ("invalid report '" ++ file ++ "': " ++ message))
  | .ok definition =>
    let path ← databasePath around settings database
    let report ← (Report.generateWith (openDatabase around path) (.ofSettings settings .any)
      around.now definition : m _)
    return match format with
      | .json => report.toJson.pretty ++ "\n"
      | .csv => report.csv

def perform (around : Surroundings m) (settings : Settings) : Command → Action m String
  | .compile file dialect => compileFile around settings file dialect
  | .run file database period year => runFile around settings file database { period, year }
  | .report file database format => reportFile around settings file database format

/-- The name and version of the program. -/
def versionLine : String := "indicator-sql 0.1.0"

def helpLines : String :=
  "Compile JSON indicator specifications to SQL and run them\n\n" ++
  "Usage: indicator-sql [OPTIONS] <COMMAND>\n\nCommands:\n" ++
  "  compile  Compile an indicator to SQL\n" ++
  "  run      Compile, resolve and execute an indicator\n" ++
  "  report   Generate a report and export it\n"

/-- Runs the program with its arguments. -/
def run (around : Surroundings m) (args : List String) : m Outcome := do
  match parse args with
  | .error .misuse => return { code := 2, output := "", error := none }
  | .error .version => return { code := 0, output := versionLine ++ "\n", error := none }
  | .error .help => return { code := 0, output := helpLines, error := none }
  | .ok invocation =>
    match ← loadSettings around invocation.settings with
    | .error e =>
      return { code := 1, output := "", error := some (Trouble.failure (.settings e)).line }
    | .ok settings =>
      match ← (perform around settings invocation.command).run with
      | .ok output => return { code := 0, output, error := none }
      | .error trouble => return { code := 1, output := "", error := some trouble.line }

end Barometer.CommandLine
