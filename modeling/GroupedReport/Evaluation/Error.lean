import GroupedReport.Diagnostic.Code
import GroupedReport.Expression.Program
import GroupedReport.Operator.Apply

/-!
# Evaluation errors

Why an expression has no value.
-/

namespace GroupedReport

open Expression

inductive EvaluationError where
  | conversion (error : CoercionError)
  | divisionByZero
  | overflow (operation : Arithmetic)
  | notComparable (left right : Option Kind)
  | fieldNotFound (column : Nat)
  | unknownNode (id : NodeId)
  /-- The run already keeps the aggregates of another program. -/
  | foreignProgram (bound current : ProgramId)
  | noSuchRow (row : Nat) (dataSet : String)
  /-- A row has more values than the data set has columns. -/
  | rowTooLong (values : Nat) (dataSet : String) (columns : Nat)
deriving DecidableEq, Repr

namespace EvaluationError

def ofOperator : OperatorError → EvaluationError
  | .divisionByZero => divisionByZero
  | .overflow operation => overflow operation
  | .notComparable left right => notComparable left right
  | .coercion error => conversion error

open Text.Digits (numeral) in
def message : EvaluationError → String
  | conversion error => "Conversion failed: " ++ error.message
  | divisionByZero => "Division by zero"
  | overflow operation => "Arithmetic overflow in Decimal " ++ operation.symbol
  | notComparable left right =>
      "Values not comparable: " ++ OperatorError.kindName left ++ " and " ++
        OperatorError.kindName right
  | fieldNotFound column => "Field $" ++ numeral column ++ " not found"
  | unknownNode id => "Unknown expression node ExprId(" ++ numeral id ++ ")"
  | foreignProgram bound current => internal
      ("execution instance belongs to tree " ++ numeral bound ++
        " and cannot evaluate aggregates of tree " ++ numeral current)
  | noSuchRow row dataSet => internal
      ("row " ++ numeral row ++ " is not in data set '" ++ dataSet ++ "'")
  | rowTooLong values dataSet columns => internal
      ("row has " ++ numeral values ++ " values but data set '" ++ dataSet ++ "' has " ++
        numeral columns ++ " columns")
where
  internal (message : String) : String := "Internal evaluation error: " ++ message

def code : EvaluationError → Diagnostic.Code
  | conversion _ => .invalidConversion
  | divisionByZero => .divisionByZero
  | overflow _ => .overflow
  | notComparable _ _ => .notComparable
  | fieldNotFound _ => .fieldNotFound
  | unknownNode _ | foreignProgram _ _ | noSuchRow _ _ | rowTooLong _ _ _ =>
      .evaluationFailed

end EvaluationError

end GroupedReport
