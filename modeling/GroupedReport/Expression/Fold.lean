import GroupedReport.Expression.Builder
import GroupedReport.Operator.Apply

/-!
# Folding

Folding replaces operations on constants by their results, and drops operations that change
nothing, such as adding zero. A node with new operands is added anew; everything else keeps its
position. A constant operation without a result is reported and left as it is.
-/

namespace GroupedReport.Expression

namespace Fold

/-- Whether a constant is zero where it is read in a kind. A zero of doubles must have the right
sign to change nothing. -/
def isZero (negative : Bool) (numeric : NumericKind) (constant : Value) : Bool :=
  match numeric, constant with
  | .int32, .int32 value => value == 0
  | .decimal, .decimal value => value.isZero
  | .decimal, .int32 value => value == 0
  | .float64, value =>
      !value.isNull && match value.toFloat64 with
        | .ok float => float == Binary64.zero false && Binary64.isNegative float == negative
        | .error _ => false
  | _, _ => false

def isOne (numeric : NumericKind) (constant : Value) : Bool :=
  match numeric, constant with
  | .int32, .int32 value => value == 1
  | .decimal, .decimal value => value.sameNumber .one
  | .decimal, .int32 value => value == 1
  | .float64, value =>
      !value.isNull && match value.toFloat64 with
        | .ok float => float == Binary64.ofNat 1
        | .error _ => false
  | _, _ => false

def isEmptyText : Value → Bool
  | .string text => text.isEmpty
  | _ => false

def isRightIdentity (operator : BinaryOperator) (constant : Value) : Bool :=
  match operator with
  | .arithmetic .plus numeric => isZero true numeric constant
  | .arithmetic .minus numeric => isZero false numeric constant
  | .arithmetic .multiply numeric | .arithmetic .divide numeric => isOne numeric constant
  | .concat => isEmptyText constant
  | _ => false

def isLeftIdentity (operator : BinaryOperator) (constant : Value) : Bool :=
  match operator with
  | .arithmetic .plus numeric => isZero true numeric constant
  | .arithmetic .multiply numeric => isOne numeric constant
  | .concat => isEmptyText constant
  | _ => false

end Fold

namespace Build

def reportUnfoldable (id : NodeId) (operator : String) (error : OperatorError) :
    Build Unit := fun builder =>
  if builder.unfoldable.contains id then ((), builder)
  else
    let diagnostic := Diagnostic.warning .unfoldedConstant
      ("Constant expression '" ++ operator ++ "' could not be folded: " ++ error.message)
    ((), { builder with
      log := builder.log ++ [diagnostic]
      unfoldable := id :: builder.unfoldable })

def rebuild (id : NodeId) (unchanged : Bool) (node : Node) : Build NodeId :=
  if unchanged then pure id else add node

def foldUnary (id : NodeId) (operator : UnaryOperator) (operand folded : NodeId) :
    Build NodeId := do
  match (← get).constant? folded with
  | some value =>
      match Operator.unary operator value with
      | .ok result => add (.literal result operator.resultKind)
      | .error error =>
          reportUnfoldable id operator.name error
          rebuild id (folded == operand) (.unary operator folded)
  | none => rebuild id (folded == operand) (.unary operator folded)

def foldBinary (id : NodeId) (operator : BinaryOperator)
    (left right foldedLeft foldedRight : NodeId) : Build NodeId := do
  let builder ← get
  let unchanged := foldedLeft == left && foldedRight == right
  let node := Node.binary operator foldedLeft foldedRight
  match builder.constant? foldedLeft, builder.constant? foldedRight with
  | some leftValue, some rightValue =>
      match Operator.binary operator leftValue rightValue with
      | .ok result => add (.literal result operator.resultKind)
      | .error error =>
          reportUnfoldable id operator.name error
          rebuild id unchanged node
  | none, some constant =>
      if Fold.isRightIdentity operator constant &&
          builder.kind foldedLeft == operator.resultKind then pure foldedLeft
      else rebuild id unchanged node
  | some constant, none =>
      if Fold.isLeftIdentity operator constant &&
          builder.kind foldedRight == operator.resultKind then pure foldedRight
      else rebuild id unchanged node
  | none, none => rebuild id unchanged node

/-- Fold a tree whose nodes the builder has; the position of the result is given. -/
def foldTree : Tree → Build NodeId
  | .unknown id | .literal id _ _ | .field id _ _ => pure id
  | .unary id operator operand => do
      let folded ← foldTree operand
      foldUnary id operator operand.id folded
  | .binary id operator left right => do
      let foldedLeft ← foldTree left
      let foldedRight ← foldTree right
      foldBinary id operator left.id right.id foldedLeft foldedRight
  | .aggregate id function inner scope key kind => do
      let folded ← foldTree inner
      rebuild id (folded == inner.id) (.aggregate function folded scope key kind)

def fold (id : NodeId) : Build NodeId := do
  foldTree ((← get).tree id)

end Build

end GroupedReport.Expression
