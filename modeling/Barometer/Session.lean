import Barometer.Indicator.Reader
import Barometer.Naming.Resolution
import Barometer.Report.Basic
import Barometer.Report.Definition
import Barometer.Settings.Basic

/-!
# Running indicators

An indicator is read, compiled, brought to the names of the database, compiled again and run.  A
report runs its indicators one by one, each on a database opened for it alone, so that a failure
stays where it is.
-/

namespace Barometer

/-- Why there is no result. -/
inductive Failure where
  | defect (defect : Defect)
  | shortage (shortage : Shortage)
  | fault (fault : Store.Fault)
  | settings (error : SettingsError)

namespace Failure

/-- Who can mend it. -/
def kind : Failure → String
  | .defect _ => "specification"
  | .shortage _ => "data_availability"
  | .fault _ => "execution"
  | .settings _ => "settings"

def message : Failure → String
  | .defect d => d.message
  | .shortage s => s.message
  | .fault f => f.message
  | .settings e => e.message

end Failure

/-- What a run depends on besides the indicator and the database. -/
structure RunOptions where
  compilation : Options
  naming : Configuration
  request : Request

/-- The options of settings; statements are written for the database they run on. -/
def RunOptions.ofSettings (settings : Settings) (request : Request) : RunOptions where
  compilation := { settings.compilation with dialect := .sqlite }
  naming := settings.naming
  request

namespace Store.Database

/-- The names an indicator needs.  The database is not asked if the indicator names no logical
table. -/
def catalogOf (db : Database) (naming : Configuration) (request : Request)
    (indicator : Indicator) : Except Failure Catalog :=
  if naming.covers indicator.tables then do
    let register ← db.register.mapError .fault
    (naming.resolve register db.live indicator.tables request indicator.scopes).mapError .shortage
  else .ok .empty

/-- The query of an indicator in the names of a catalog. -/
def queryOf (options : Options) (catalog : Catalog) (indicator : Indicator) :
    Except Defect Sql.Query :=
  (catalog.apply indicator).toQuery (catalog.applyJoins options)

/-- Runs an indicator. -/
def runIndicator (db : Database) (options : RunOptions) (indicator : Indicator) :
    Except Failure ResultSet := do
  let compiled ← (indicator.toQuery options.compilation).mapError .defect
  let catalog ← db.catalogOf options.naming options.request indicator
  let query ←
    if catalog.isEmpty then .ok compiled
    else (queryOf options.compilation catalog indicator).mapError .defect
  let result ← (db.run options.compilation.dialect query).mapError .fault
  return .ofStore (query.statement options.compilation.dialect) result

/-- Reads and runs an indicator. -/
def runJson (db : Database) (options : RunOptions) (indicator : Json) :
    Except Failure ResultSet := do
  let indicator ← (Indicator.read indicator).mapError .defect
  db.runIndicator options indicator

end Store.Database

namespace Report

/-- A database, if it can be opened. -/
abbrev Source := Except Store.Fault Store.Database

/-- The result of a slot, marked with its indicator. -/
def runSlot (source : Source) (options : RunOptions) (slot : Slot) : Except Failure ResultSet := do
  let db ← source.mapError .fault
  let result ← db.runJson options slot.indicator
  return { result with indicatorId := some slot.id, indicatorTitle := some slot.title }

/-- What becomes of a slot. -/
def outcomeOf (source : Source) (options : RunOptions) (slot : Slot) : SlotOutcome :=
  match runSlot source options slot with
  | .ok result => .success result
  | .error failure => .failure (.ofMessage failure.message)

def slotResult (source : Source) (options : RunOptions) (slot : Slot) : SlotResult where
  indicatorId := slot.id
  indicatorTitle := slot.title
  chartType := slot.chartType
  outcome := outcomeOf source options slot

/-- The report of a definition, if every session opens the same database. -/
def generate (source : Source) (options : RunOptions) (time : Timestamp)
    (definition : ReportDefinition) : Report where
  id := definition.id
  title := definition.title
  generatedAt := time
  results := definition.orderedSlots.map (slotResult source options)

/-- Makes the report of a definition, with a session for each slot. -/
def generateWith [Monad m] (session : m Source) (options : RunOptions) (now : m Timestamp)
    (definition : ReportDefinition) : m Report := do
  let results ← definition.orderedSlots.mapM fun slot ↦ do
    return slotResult (← session) options slot
  return {
    id := definition.id
    title := definition.title
    generatedAt := ← now
    results }

end Report

end Barometer
