import Barometer.Imports.Timestamp
import Barometer.Json.Decoder
import Barometer.Results.ResultSet

/-!
# Reports

A report holds what became of each of its indicators: a result, or the text of a failure with no
rows.  As text it is pretty JSON, or one block of records for each result.
-/

namespace Barometer

/-- A failure in the shape of a result. -/
structure FailedResult where
  error : String
  rows : List Json.Members
  columns : List String
  rowCount : Nat

inductive SlotOutcome where
  | success (result : ResultSet)
  | failure (failure : FailedResult)

structure SlotResult where
  indicatorId : Int
  indicatorTitle : String
  chartType : Option String
  outcome : SlotOutcome

structure Report where
  id : Int
  title : String
  generatedAt : Timestamp
  results : List SlotResult

/-- A failure without rows. -/
def FailedResult.ofMessage (error : String) : FailedResult :=
  { error, rows := [], columns := [], rowCount := 0 }

namespace SlotOutcome

def isSuccess : SlotOutcome → Bool
  | .success _ => true
  | .failure _ => false

def error? : SlotOutcome → Option String
  | .success _ => none
  | .failure f => some f.error

def rows : SlotOutcome → List Json.Members
  | .success r => r.rows
  | .failure f => f.rows

end SlotOutcome

def FailedResult.toJson (f : FailedResult) : Json :=
  .object [("error", .string f.error), ("rows", .array (f.rows.map .object)),
    ("columns", .ofStrings f.columns), ("row_count", .ofNat f.rowCount)]

def SlotOutcome.toJson : SlotOutcome → Json
  | .success r => r.toJson
  | .failure f => f.toJson

def SlotResult.toJson (s : SlotResult) : Json :=
  .object [("indicator_id", .ofInt s.indicatorId), ("indicator_title", .string s.indicatorTitle),
    ("chart_type", .ofOption s.chartType), ("execution_result", s.outcome.toJson)]

namespace Report

def toJson (report : Report) : Json :=
  .object [("report_id", .ofInt report.id), ("report_title", .string report.title),
    ("generated_at", .string report.generatedAt.universalText),
    ("results", .array (report.results.map SlotResult.toJson))]

/-- The mark that tells programs which encoding a text is in. -/
def encodingMark : Char := Char.ofNat 0xFEFF

/-- The records of a slot and an empty line after them; a failure leaves no trace. -/
def block (slot : SlotResult) : List Char :=
  match slot.outcome with
  | .success result =>
    Csv.records .semicolon (["Indicateur: " ++ slot.indicatorTitle] :: result.table) ++ ['\n']
  | .failure _ => []

def csv (report : Report) : String :=
  String.ofList (encodingMark :: report.results.flatMap block)

end Report

open Json (Misfit Decoder.fields Decoder.integer Decoder.natural Decoder.text Decoder.list
  Decoder.members)

def ResultSet.ofJson (v : Json) : Except Misfit ResultSet := do
  let fields ← Decoder.fields "ResultSet"
    ["sql", "columns", "rows", "row_count", "indicator_id", "indicator_title"] v
  return {
    sql := ← fields.get "sql" Decoder.text
    columns := ← fields.get "columns" (Decoder.list Decoder.text)
    rows := ← fields.get "rows" (Decoder.list Decoder.members)
    rowCount := ← fields.get "row_count" Decoder.natural
    indicatorId := ← fields.getD "indicator_id" (Json.Decoder.optional Decoder.integer) none
    indicatorTitle := ← fields.getD "indicator_title" (Json.Decoder.optional Decoder.text) none }

def FailedResult.ofJson (v : Json) : Except Misfit FailedResult := do
  let fields ← Decoder.fields "FailedResult" ["error", "rows", "columns", "row_count"] v
  return {
    error := ← fields.get "error" Decoder.text
    rows := ← fields.get "rows" (Decoder.list Decoder.members)
    columns := ← fields.get "columns" (Decoder.list Decoder.text)
    rowCount := ← fields.get "row_count" Decoder.natural }

/-- An outcome is a success if it can be read as one. -/
def SlotOutcome.ofJson (v : Json) : Except Misfit SlotOutcome :=
  match ResultSet.ofJson v with
  | .ok result => .ok (.success result)
  | .error _ =>
    match FailedResult.ofJson v with
    | .ok f => .ok (.failure f)
    | .error _ =>
      .error {
        problem := .invalid "neither a result nor a failure"
        side := .after
        path := [] }

/-- An instant with its zone. -/
def Timestamp.ofJson (v : Json) : Except Misfit Timestamp := do
  match Timestamp.ofZonedText? (← Decoder.text v) with
  | some t => return t
  | none => .error { problem := .invalid "no such instant", side := .after, path := [] }

def SlotResult.ofJson (v : Json) : Except Misfit SlotResult := do
  let fields ← Decoder.fields "SlotResult"
    ["indicator_id", "indicator_title", "chart_type", "execution_result"] v
  return {
    indicatorId := ← fields.get "indicator_id" Decoder.integer
    indicatorTitle := ← fields.get "indicator_title" Decoder.text
    chartType := ← fields.nullable "chart_type" Decoder.text
    outcome := ← fields.get "execution_result" SlotOutcome.ofJson }

def Report.ofJson (v : Json) : Except Misfit Report := do
  let fields ← Decoder.fields "Report"
    ["report_id", "report_title", "generated_at", "results"] v
  return {
    id := ← fields.get "report_id" Decoder.integer
    title := ← fields.get "report_title" Decoder.text
    generatedAt := ← fields.get "generated_at" Timestamp.ofJson
    results := ← fields.get "results" (Decoder.list SlotResult.ofJson) }

end Barometer
