import Barometer.Indicator.Basic
import Barometer.Indicator.Defect

/-!
# Reading indicators

Indicators are written as JSON.  Each kind of node is told by its keys, and everything is checked
here, so that what has been read can be compiled.  Keys that a node does not know are ignored,
except in conditions, which have one key.
-/

namespace Barometer

open Defect

namespace Expression

/-- The name in a column reference. -/
def columnName (node : Json) (name : Json) : Except Defect String :=
  match name with
  | .string s => if isBlankName s then .error (misshapen .columnReference node) else .ok s
  | _ => .error (misshapen .columnReference node)

/-- The operator of an operation. -/
def operatorOf (node : Json) (op : Json) : Except Defect Arithmetic :=
  match op with
  | .string name =>
    match Arithmetic.ofName? name with
    | some op => .ok op
    | none => .error (.unknownOperator .arithmetic name)
  | _ => .error (misshapen .operator node)

mutual

/-- Reads an expression; `leaf` reads the nodes that have the key of an aggregate. -/
def read (leaf : Json → Except Defect α) (node : Json) : Except Defect (Expression α) :=
  match node with
  | .object members =>
    if (Json.get? members "agg").isSome then (leaf (.object members)).map .aggregate
    else match Json.get? members "col" with
      | some name => (columnName node name).map .column
      | none =>
        match Json.get? members "op" with
        | none => .error (misshapen .expression node)
        | some op => do
          let op ← operatorOf node op
          match h : Json.get? members "args" with
          | none => .error (lacking .operator "args" node)
          | some (.array args) =>
            have := Json.sizeOf_items_lt h
            if args.isEmpty then .error (misshapen .operatorArguments node)
            else return .operation op (← readAll leaf args)
          | some _ => .error (misshapen .operatorArguments node)
  | .array _ => .error (misshapen .expression node)
  | _ =>
    match Scalar.ofJson? node with
    | some scalar => .ok (.literal scalar)
    | none => .error (misshapen .expression node)
termination_by sizeOf node

def readAll (leaf : Json → Except Defect α) (nodes : List Json) :
    Except Defect (List (Expression α)) :=
  match nodes with
  | [] => .ok []
  | node :: rest => do
    let e ← read leaf node
    return e :: (← readAll leaf rest)
termination_by sizeOf nodes

end

end Expression

/-- An expression without aggregates. -/
def Operand.read (node : Json) : Except Defect Operand :=
  Expression.read (fun node ↦ .error (misshapen .misplacedAggregate node)) node

namespace Condition

/-- The comparison of a key and its operands. -/
def readComparison (node : Json) (key : String) (operands : Json) : Except Defect Condition :=
  match Comparison.ofName? key with
  | none => .error (.unknownOperator .comparison key)
  | some op =>
    match operands with
    | .array [left, right] => do
      let left ← Operand.read left
      let right ← Operand.read right
      return .compare op left right
    | _ => .error (misshapen .comparison node)

/-- The junction that a key stands for. -/
def junctionOfKey? (key : String) : Option Junction :=
  match Text.lower key with
  | "and" => some .and
  | "or" => some .or
  | _ => none

mutual

/-- Nothing, an empty list and an empty object are the empty condition. -/
def read (node : Json) : Except Defect Condition :=
  match node with
  | .null => .ok .empty
  | .array [] => .ok .empty
  | .array (item :: rest) => return .junction .list (← readAll (item :: rest))
  | .object [] => .ok .empty
  | .object [(key, operands)] =>
    match junctionOfKey? key with
    | some kind =>
      match operands with
      | .array items => return .junction kind (← readAll items)
      | .null => .ok (.junction kind [])
      | _ => .error (misshapen .condition node)
    | none => readComparison node key operands
  | _ => .error (misshapen .condition node)
termination_by sizeOf node

def readAll (nodes : List Json) : Except Defect (List Condition) :=
  match nodes with
  | [] => .ok []
  | node :: rest => do
    let c ← read node
    return c :: (← readAll rest)
termination_by sizeOf nodes

end

end Condition

/-- The condition under the first of two keys, if either is present. -/
def readConditionAt (members : Json.Members) (key other : String) : Except Defect Condition :=
  match (Json.get? members key).or (Json.get? members other) with
  | some node => Condition.read node
  | none => .ok .empty

namespace Subject

def readTable (node : Json) (table : Json) : Except Defect String :=
  match table with
  | .string name => if isBlankName name then .error (misshapen .subjectTable node) else .ok name
  | _ => .error (misshapen .subjectTable node)

def read (node : Json) : Except Defect Subject :=
  match node with
  | .object members =>
    match Json.get? members "tables" with
    | some (.array tables) => do
      let tables ← tables.mapM (readTable node)
      let conditions ← readConditionAt members "conditions" "condition"
      return { tables, conditions }
    | some _ => .error (misshapen .subjectTables node)
    | none => .error (lacking .subject "tables" node)
  | _ => .error (misshapen .subject node)

end Subject

namespace Aggregation

/-- The column of an aggregate: a name, a number, or an object that holds a name.  A blank name
stands for no column. -/
def readColumn (node : Json) (column : Option Json) : Except Defect (Option String) :=
  match column with
  | none => .ok none
  | some .null => .ok none
  | some (.string name) => .ok (if isBlankName name then none else some name)
  | some (.number n) => .ok (some n.text)
  | some (.object inner) =>
    match Json.get? inner "col" with
    | some (.string name) => .ok (some name)
    | _ => .error (misshapen .aggregatedColumn node)
  | some _ => .error (misshapen .aggregatedColumn node)

/-- A subject without tables stands for no subject. -/
def readSubject (members : Json.Members) : Except Defect (Option Subject) :=
  match (Json.get? members "subject").or (Json.get? members "sujet") with
  | none => .ok none
  | some .null => .ok none
  | some node => do
    let subject ← Subject.read node
    return if subject.tables.isEmpty then none else some subject

def readStatistic (node : Json) (name : Option Json) : Except Defect Statistic :=
  match name with
  | some (.string name) =>
    match Statistic.ofName? name with
    | some statistic => .ok statistic
    | none => .error (.unknownStatistic name)
  | some _ => .error (misshapen .aggregation node)
  | none => .error (lacking .aggregation "agg" node)

def read (node : Json) : Except Defect Aggregation :=
  match node with
  | .object members => do
    let statistic ← readStatistic node (Json.get? members "agg")
    let column ← readColumn node (Json.get? members "col")
    if column.isNone && !statistic.isCount then
      throw (lacking .aggregation "col" node)
    let condition ← match Json.get? members "condition" with
      | some condition => Condition.read condition
      | none => pure .empty
    let subject ← readSubject members
    return { statistic, column, condition, subject }
  | _ => .error (misshapen .aggregation node)

end Aggregation

/-- An expression over aggregates. -/
def Measure.read (node : Json) : Except Defect Measure :=
  Expression.read Aggregation.read node

namespace CaseArm

def readLabel (node : Json) (label : Option Json) : Except Defect String :=
  match label with
  | some (.string label) => .ok label
  | some (.number n) => .ok n.text
  | some _ => .error (misshapen .caseLabel node)
  | none => .error (lacking .case "label" node)

def read (node : Json) : Except Defect CaseArm :=
  match node with
  | .object members =>
    match Json.get? members "when" with
    | none => .error (lacking .case "when" node)
    | some condition => do
      let label ← readLabel node (Json.get? members "label")
      let condition ← Condition.read condition
      return { condition, label }
  | _ => .error (misshapen .case node)

end CaseArm

namespace Column

/-- A text under a key. -/
def readText (part : Part) (key : String) (node : Json) (text : Option Json) :
    Except Defect String :=
  match text with
  | some (.string s) => .ok s
  | some _ => .error (misshapen part node)
  | none => .error (lacking .column key node)

def readBody (node : Json) (members : Json.Members) (kind : String) : Except Defect ColumnBody :=
  match kind with
  | "group_by" =>
    match Json.get? members "expr" with
    | some value => return .groupBy (← Operand.read value)
    | none => .error (lacking .groupByColumn "expr" node)
  | "aggregation" =>
    match Json.get? members "expr" with
    | some measure => return .aggregation (← Measure.read measure)
    | none => .error (lacking .aggregationColumn "expr" node)
  | "case" =>
    match Json.get? members "cases" with
    | some (.array (arm :: arms)) => return .cases (← (arm :: arms).mapM CaseArm.read)
    | some _ => .error (misshapen .caseColumn node)
    | none => .error (lacking .caseColumn "cases" node)
  | _ => .error (misshapen .columnType node)

def read (node : Json) : Except Defect Column :=
  match node with
  | .object members => do
    let kind ← readText .column "type" node (Json.get? members "type")
    let title ← readText .columnTitle "titre" node (Json.get? members "titre")
    let body ← readBody node members kind
    return { title, body }
  | _ => .error (misshapen .column node)

end Column

namespace Indicator

def read (node : Json) : Except Defect Indicator :=
  match node with
  | .object members =>
    match Json.get? members "sujet" with
    | none => .error (lacking .indicator "sujet" node)
    | some subject => do
      let subject ← Subject.read subject
      match Json.get? members "colonnes" with
      | some (.array columns) => return { subject, columns := ← columns.mapM Column.read }
      | some _ => .error (misshapen .indicatorColumns node)
      | none => .error (lacking .indicator "colonnes" node)
  | _ => .error (misshapen .indicator node)

/-- The indicator that a text holds. -/
def ofText (text : String) : Except Defect Indicator :=
  match Json.parse text with
  | .ok node => read node
  | .error error => .error (.notJson error)

end Indicator

end Barometer
