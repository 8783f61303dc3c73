import Barometer.Json.Parser
import Barometer.Json.Printer

/-!
# Defects of indicators

What can be wrong with an indicator, before any data is looked at.  Messages show the node that is
wrong, so that its author can find it.
-/

namespace Barometer

/-- The parts of an indicator that messages name. -/
inductive Part where
  | indicator
  | indicatorColumns
  | subject
  | subjectTable
  | subjectTables
  | column
  | columnTitle
  | columnType
  | groupByColumn
  | aggregationColumn
  | caseColumn
  | case
  | caseLabel
  | expression
  | misplacedAggregate
  | columnReference
  | operator
  | operatorArguments
  | aggregation
  | aggregatedColumn
  | condition
  | comparison
  | arithmetic
deriving DecidableEq, Repr

def Part.name : Part → String
  | .indicator => "indicator"
  | .indicatorColumns => "indicator columns"
  | .subject => "subject"
  | .subjectTable => "subject table"
  | .subjectTables => "subject tables"
  | .column => "column"
  | .columnTitle => "column title"
  | .columnType => "column type"
  | .groupByColumn => "group_by column"
  | .aggregationColumn => "aggregation column"
  | .caseColumn => "case column"
  | .case => "case"
  | .caseLabel => "case label"
  | .expression => "expression"
  | .misplacedAggregate => "expression (aggregate outside an aggregation column)"
  | .columnReference => "column reference"
  | .operator => "operator"
  | .operatorArguments => "operator arguments"
  | .aggregation => "aggregation"
  | .aggregatedColumn => "aggregation column"
  | .condition => "condition"
  | .comparison => "comparison"
  | .arithmetic => "arithmetic"

inductive Defect where
  | missingKey (part : Part) (key node : String)
  | unrecognized (part : Part) (node : String)
  | unknownOperator (part : Part) (op : String)
  | unknownStatistic (name : String)
  | noTables
  | notJson (error : Json.SyntaxError)
deriving DecidableEq, Repr

namespace Defect

/-- A node has none of the shapes its part can have. -/
def misshapen (part : Part) (node : Json) : Defect := .unrecognized part node.compact

/-- A node lacks a key. -/
def lacking (part : Part) (key : String) (node : Json) : Defect := .missingKey part key node.compact

def message : Defect → String
  | .missingKey part key node =>
    "missing required key '" ++ key ++ "' in " ++ part.name ++ ": " ++ node
  | .unrecognized part node => "unrecognized " ++ part.name ++ " node: " ++ node
  | .unknownOperator part op => "unsupported " ++ part.name ++ " operator '" ++ op ++ "'"
  | .unknownStatistic name => "unknown aggregate function '" ++ name ++ "'"
  | .noTables => "indicator subject has no tables"
  | .notJson error => "invalid indicator JSON: " ++ error.message

end Defect

end Barometer
