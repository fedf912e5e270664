import GroupedReport.Operator.Basic
import GroupedReport.Value.Coercion

/-!
# Applying operators

What an operator makes of the values of its operands. Operands are converted to the kind that the
operator computes in. A null operand makes the result null, with two exceptions: in text it is
empty, and in logic it is the third truth value.
-/

namespace GroupedReport

inductive OperatorError where
  | divisionByZero
  /-- The result of decimal arithmetic is too large. -/
  | overflow (operation : Arithmetic)
  /-- The values have no order; null has no kind. -/
  | notComparable (left right : Option Kind)
  | coercion (error : CoercionError)
deriving DecidableEq, Repr

namespace OperatorError

def kindName (kind : Option Kind) : String :=
  (kind.map Kind.name).getD "Null"

def message : OperatorError → String
  | divisionByZero => "Division by zero"
  | overflow operation => "Arithmetic overflow in Decimal " ++ operation.symbol
  | notComparable left right =>
      "Cannot compare " ++ kindName left ++ " with " ++ kindName right
  | coercion error => error.message

end OperatorError

namespace Operator

/-- An operand in the kind of the operator, an impossible conversion being an error of the
operator. -/
def operand (converted : Except CoercionError α) : Except OperatorError α :=
  converted.mapError .coercion

/-! ## Arithmetic -/

/-- Arithmetic of 32 bits. What does not fit wraps around. -/
def int32 (operation : Arithmetic) (left right : Int32) : Except OperatorError Int32 :=
  match operation with
  | .plus => .ok (left + right)
  | .minus => .ok (left - right)
  | .multiply => .ok (left * right)
  | .divide => if right = 0 then .error .divisionByZero else .ok (left / right)

def float64 (operation : Arithmetic) (left right : Float) : Float :=
  match operation with
  | .plus => left + right
  | .minus => left - right
  | .multiply => left * right
  | .divide => left / right

def decimal (operation : Arithmetic) (left right : Decimal) : Except OperatorError Decimal :=
  let result? : Except OperatorError (Option Decimal) :=
    match operation with
    | .plus => .ok (left.add? right)
    | .minus => .ok (left.subtract? right)
    | .multiply => .ok (left.multiply? right)
    | .divide => if right.isZero then .error .divisionByZero else .ok (left.divide? right)
  match result? with
  | .error error => .error error
  | .ok none => .error (.overflow operation)
  | .ok (some result) => .ok result

def arithmetic (operation : Arithmetic) (numeric : NumericKind) (left right : Value) :
    Except OperatorError Value :=
  match numeric with
  | .int32 => do
      let left ← operand left.toInt32
      let right ← operand right.toInt32
      .int32 <$> int32 operation left right
  | .decimal => do
      let left ← operand left.toDecimal
      let right ← operand right.toDecimal
      .decimal <$> decimal operation left right
  | .float64 => do
      let left ← operand left.toFloat64
      let right ← operand right.toFloat64
      .ok (.float64 (float64 operation left right))

/-! ## Comparison -/

def satisfies : Comparison → Ordering → Bool
  | .equal, order => order == .eq
  | .notEqual, order => order != .eq
  | .less, order => order == .lt
  | .lessOrEqual, order => order != .gt
  | .greater, order => order == .gt
  | .greaterOrEqual, order => order != .lt

/-- Compare two values by their order. Values without an order can still be equal or not. -/
def compare (comparison : Comparison) (left right : Value) : Except OperatorError Bool :=
  match left.compare? right with
  | some order => .ok (satisfies comparison order)
  | none =>
      match comparison with
      | .equal => .ok (left.same right)
      | .notEqual => .ok (!left.same right)
      | _ => .error (.notComparable left.kind? right.kind?)

/-! ## Logic -/

def truth? (value : Value) : Except OperatorError (Option Bool) :=
  if value.isNull then .ok none else some <$> operand value.toBoolean

/-- Conjunction, where `dominant` is false, or disjunction, where it is true. An operand with
the dominant value decides alone; otherwise a null operand makes the result null. -/
def logical (dominant : Bool) (left right : Value) : Except OperatorError Value := do
  let left ← truth? left
  let right ← truth? right
  if left = some dominant ∨ right = some dominant then .ok (.boolean dominant)
  else if left.isSome && right.isSome then .ok (.boolean !dominant)
  else .ok .null

/-! ## All operators -/

def binary (operator : BinaryOperator) (left right : Value) : Except OperatorError Value :=
  match operator with
  | .concat => .ok (.string (left.toText ++ right.toText))
  | .and => logical false left right
  | .or => logical true left right
  | .compare comparison =>
      if left.isNull || right.isNull then .ok .null
      else .boolean <$> compare comparison left right
  | .arithmetic operation numeric =>
      if left.isNull || right.isNull then .ok .null
      else arithmetic operation numeric left right

def unary (operator : UnaryOperator) (value : Value) : Except OperatorError Value :=
  if value.isNull then .ok .null
  else match operator with
    | .negate .int32 => (fun value => .int32 (-value)) <$> operand value.toInt32
    | .negate .float64 => (fun value => .float64 (-value)) <$> operand value.toFloat64
    | .negate .decimal => (fun value => .decimal value.negate) <$> operand value.toDecimal
    | .not => (fun value => .boolean !value) <$> operand value.toBoolean

end Operator

end GroupedReport
