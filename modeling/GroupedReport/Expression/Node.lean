import GroupedReport.Operator.Basic
import GroupedReport.Scope
import GroupedReport.Value.Basic

/-!
# Expression nodes

Expressions are kept as nodes in an array, and a node refers to its operands by their positions.
An aggregate has a key under which its value may be kept; an aggregate that is folded keeps its
key.
-/

namespace GroupedReport.Expression

abbrev NodeId := Nat

abbrev AggregateKey := Nat

/-- One operation of an expression, with the positions of its operands. -/
inductive Node where
  /-- A constant. Null has a kind here, too. -/
  | literal (value : Value) (kind : Kind)
  /-- The value of a column in the current row. -/
  | field (column : Nat) (kind : Kind)
  | unary (operator : UnaryOperator) (operand : NodeId)
  | binary (operator : BinaryOperator) (left right : NodeId)
  | aggregate (function : AggregateFunction) (inner : NodeId) (scope : Scope)
      (key : AggregateKey) (kind : Kind)
deriving Repr

namespace Node

def kind : Node → Kind
  | literal _ kind | field _ kind | aggregate _ _ _ _ kind => kind
  | unary operator _ => operator.resultKind
  | binary operator _ _ => operator.resultKind

def constant? : Node → Option Value
  | literal value _ => some value
  | _ => none

def children : Node → List NodeId
  | literal _ _ | field _ _ => []
  | unary _ operand => [operand]
  | binary _ left right => [left, right]
  | aggregate _ inner _ _ _ => [inner]

def key? : Node → Option AggregateKey
  | aggregate _ _ _ key _ => some key
  | _ => none

end Node

end GroupedReport.Expression
