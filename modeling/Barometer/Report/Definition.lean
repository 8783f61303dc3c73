import Barometer.Json.Decoder

/-!
# Report definitions

A report is a list of indicators with titles and an order of display.  The indicators are kept as
they are written, and read only when the report is made.
-/

namespace Barometer

/-- A place in a report. -/
structure Slot where
  id : Int
  title : String
  chartType : Option String
  displayOrder : Int
  indicator : Json

structure ReportDefinition where
  id : Int
  title : String
  slots : List Slot

open Json (Misfit Decoder.fields Decoder.integer Decoder.text Decoder.list Decoder.optional)

namespace Slot

def ofJson (v : Json) : Except Misfit Slot := do
  let fields ← Decoder.fields "ReportIndicator"
    ["id", "title", "chart_type", "display_order", "indicator"] v
  return {
    id := ← fields.get "id" Decoder.integer
    title := ← fields.get "title" Decoder.text
    chartType := ← fields.getD "chart_type" (Decoder.optional Decoder.text) none
    displayOrder := ← fields.getD "display_order" Decoder.integer 0
    indicator := ← fields.get "indicator" fun indicator ↦ .ok indicator.distinct }

def toJson (slot : Slot) : Json :=
  .object [("id", .ofInt slot.id), ("title", .string slot.title),
    ("chart_type", .ofOption slot.chartType), ("display_order", .ofInt slot.displayOrder),
    ("indicator", slot.indicator)]

end Slot

namespace ReportDefinition

def ofJson (v : Json) : Except Misfit ReportDefinition := do
  let fields ← Decoder.fields "ReportDefinition" ["id", "title", "indicators"] v
  return {
    id := ← fields.get "id" Decoder.integer
    title := ← fields.get "title" Decoder.text
    slots := ← fields.getD "indicators" (Decoder.list Slot.ofJson) [] }

def toJson (report : ReportDefinition) : Json :=
  .object [("id", .ofInt report.id), ("title", .string report.title),
    ("indicators", .array (report.slots.map Slot.toJson))]

/-- Reads a written definition, or says what is wrong with it. -/
def ofText (text : String) : Except String ReportDefinition := do
  let v ← (Json.read text).mapError Json.SyntaxError.message
  (ofJson v).mapError (Misfit.textMessage text)

/-- The slots in the order of display; those of one order stay as they are. -/
def orderedSlots (report : ReportDefinition) : List Slot :=
  report.slots.mergeSort fun a b ↦ decide (a.displayOrder ≤ b.displayOrder)

end ReportDefinition

end Barometer
