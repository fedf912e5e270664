import GroupedReport.Definition.Basic
import GroupedReport.Definition.Build
import GroupedReport.Evaluation.Engine
import GroupedReport.Expression.Fold

/-!
# Columns

A column of a report has expressions for its values, its footer and its visibility. During a run
it stores its horizontal position.
-/

namespace GroupedReport

open Expression

/-- A column with its expressions built. The owner is the name it stores things under. -/
structure Column where
  name : String
  owner : String
  width : Float
  value : NodeId
  footer : Option NodeId
  hidden : Option NodeId
  fixedHeader : Bool

namespace Column

def buildWidth : Option Float → Build Float
  | some width => pure width
  | none => do
      Build.report (.error .missingElement "TableColumn requires the Width element.")
      return Binary64.zero false

def buildFlag : Option Flag → Build Bool
  | none => pure false
  | some flag => do
      let (value, log) := flag.resolve
      log.forM Build.report
      return value

def build (fields : Fields) (index : Nat) (definition : Definition.Column) : Build Column := do
  let width ← buildWidth definition.width
  let value ← Formula.buildOperand fields definition.value
  let value ← Build.require value "TableColumn" "Value" .string
  let footer ← Formula.buildOperand fields definition.footer
  let hidden ← Formula.buildOperand fields definition.hidden
  let fixedHeader ← buildFlag definition.fixedHeader
  return { name := definition.name, owner := "TableColumn/" ++ Text.Digits.numeral index,
           width, value, footer, hidden, fixedHeader }

def buildFrom (fields : Fields) (index : Nat) : List Definition.Column → Build (List Column)
  | [] => pure []
  | definition :: rest => do
      let column ← build fields index definition
      let columns ← buildFrom fields (index + 1) rest
      return column :: columns

def foldOptional : Option NodeId → Build (Option NodeId)
  | none => pure none
  | some id => some <$> Build.fold id

def fold (column : Column) : Build Column := do
  let value ← Build.fold column.value
  let footer ← foldOptional column.footer
  let hidden ← foldOptional column.hidden
  return { column with value, footer, hidden }

def roots (column : Column) : List NodeId :=
  column.value :: column.footer.toList ++ column.hidden.toList

/-- Whether a column is hidden, seen from a row. Null hides nothing. -/
def isHidden (column : Column) (engine : Engine) (row? : Option RowId) : Evaluate Bool :=
  match column.hidden with
  | none => return false
  | some id => do
      let value ← engine.native id row?
      Evaluate.conversion value.toBoolean

def positionName : String := "wc"

def setPosition (column : Column) (position : Float) (run : Run) : Run :=
  run.setWorkState column.owner positionName (.float64 position)

def position (column : Column) (run : Run) : Float :=
  match (run.workState? column.owner positionName).map Value.toFloat64 with
  | some (.ok position) => if position.isNaN then Binary64.zero false else position
  | _ => Binary64.zero false

end Column

end GroupedReport
