import GroupedReport.Diagnostic.Basic
import GroupedReport.Expression.Tree

/-!
# Building expressions

A builder adds nodes behind the ones it has, hands out the keys of aggregates and keeps a log.
Building never fails: where an expression makes no sense, that is reported and a null stands in.
-/

namespace GroupedReport.Expression

/-- The nodes of a definition while they are built. `unfoldable` holds the nodes whose constant
operands have no result, so that each is reported once. -/
structure Builder where
  nodes : Array Node := #[]
  nextKey : AggregateKey := 0
  log : Diagnostic.Log := []
  unfoldable : List NodeId := []

abbrev Build := StateM Builder

namespace Builder

def kind (builder : Builder) (id : NodeId) : Kind :=
  ((builder.nodes[id]?).map Node.kind).getD .object

def constant? (builder : Builder) (id : NodeId) : Option Value :=
  (builder.nodes[id]?).bind Node.constant?

def tree (builder : Builder) (id : NodeId) : Tree :=
  .ofNodes builder.nodes id

end Builder

namespace Build

def add (node : Node) : Build NodeId := fun builder =>
  (builder.nodes.size, { builder with nodes := builder.nodes.push node })

def report (diagnostic : Diagnostic) : Build Unit := fun builder =>
  ((), { builder with log := builder.log ++ [diagnostic] })

def kind (id : NodeId) : Build Kind := fun builder =>
  (builder.kind id, builder)

/-! ## Leaves -/

/-- A constant of the kind of its value; a null is opaque. -/
def literal (value : Value) : Build NodeId :=
  add (.literal value (value.kind?.getD .object))

def null (kind : Kind) : Build NodeId :=
  add (.literal .null kind)

def field (column : Nat) (kind : Kind) : Build NodeId :=
  add (.field column kind)

/-- An operand that has to be there. If it is missing, that is reported and a null stands in. -/
def require (child : Option NodeId) (owner element : String) (kind : Kind) : Build NodeId :=
  match child with
  | some id => pure id
  | none => do
      report (.error .missingElement (owner ++ " requires the " ++ element ++ " element."))
      null kind

/-! ## Operators -/

def unary (operator : UnaryOperator) (operand : NodeId) : Build NodeId :=
  add (.unary operator operand)

def binary (operator : BinaryOperator) (left right : NodeId) : Build NodeId :=
  add (.binary operator left right)

/-- The operator for an arithmetic operation on two kinds. A sum with text is a concatenation;
otherwise the kinds must be numeric, and the wider one is computed in. -/
def arithmeticOperator? (operation : Arithmetic) (left right : Kind) : Option BinaryOperator :=
  if operation = .plus ∧ (left = .string ∨ right = .string) then some .concat
  else (left.promote? right).bind (BinaryOperator.arithmetic? operation)

def arithmetic (operation : Arithmetic) (left right : NodeId) : Build NodeId := do
  let leftKind ← kind left
  let rightKind ← kind right
  match arithmeticOperator? operation leftKind rightKind with
  | some operator => binary operator left right
  | none =>
      report (.error .undefinedOperator
        ("Operator '" ++ operation.symbol ++ "' is not defined for " ++ leftKind.name ++
          " and " ++ rightKind.name))
      null .object

def negate (operand : NodeId) : Build NodeId := do
  let operandKind ← kind operand
  match UnaryOperator.negate? operandKind with
  | some operator => unary operator operand
  | none =>
      report (.error .undefinedOperator
        ("Operator '-' is not defined for " ++ operandKind.name))
      null .object

/-! ## Aggregates -/

def nextKey : Build AggregateKey := fun builder =>
  (builder.nextKey, { builder with nextKey := builder.nextKey + 1 })

def aggregate (function : AggregateFunction) (inner : NodeId) (scope : Scope) :
    Build NodeId := do
  let key ← nextKey
  let innerKind ← kind inner
  add (.aggregate function inner scope key (function.resultKind innerKind))

end Build

end GroupedReport.Expression
