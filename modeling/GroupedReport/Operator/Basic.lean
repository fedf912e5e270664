import GroupedReport.Kind

/-!
# Operators

An operator of an expression already says in which kind it computes. It is chosen when an
expression is built, from the kinds of the operands, and never looks at kinds again.
-/

namespace GroupedReport

inductive NumericKind where
  | int32
  | float64
  | decimal
deriving DecidableEq, Repr

namespace NumericKind

def kind : NumericKind → Kind
  | int32 => .int32
  | float64 => .float64
  | decimal => .decimal

def ofKind? : Kind → Option NumericKind
  | .int32 => some int32
  | .float64 => some float64
  | .decimal => some decimal
  | _ => none

@[simp] theorem ofKind?_kind (numeric : NumericKind) : ofKind? numeric.kind = some numeric := by
  cases numeric <;> rfl

theorem ofKind?_isSome (kind : Kind) : (ofKind? kind).isSome = kind.isNumeric := by
  cases kind <;> rfl

end NumericKind

inductive Arithmetic where
  | plus
  | minus
  | multiply
  | divide
deriving DecidableEq, Repr

namespace Arithmetic

def all : List Arithmetic := [plus, minus, multiply, divide]

def symbol : Arithmetic → String
  | plus => "+"
  | minus => "-"
  | multiply => "*"
  | divide => "/"

end Arithmetic

inductive Comparison where
  | equal
  | notEqual
  | less
  | lessOrEqual
  | greater
  | greaterOrEqual
deriving DecidableEq, Repr

namespace Comparison

def all : List Comparison :=
  [equal, notEqual, less, lessOrEqual, greater, greaterOrEqual]

def symbol : Comparison → String
  | equal => "="
  | notEqual => "!="
  | less => "<"
  | lessOrEqual => "<="
  | greater => ">"
  | greaterOrEqual => ">="

end Comparison

inductive BinaryOperator where
  | arithmetic (operation : Arithmetic) (numeric : NumericKind)
  | concat
  | compare (comparison : Comparison)
  | and
  | or
deriving DecidableEq, Repr

namespace BinaryOperator

def arithmetic? (operation : Arithmetic) (kind : Kind) : Option BinaryOperator :=
  (NumericKind.ofKind? kind).map (arithmetic operation)

def resultKind : BinaryOperator → Kind
  | arithmetic _ numeric => numeric.kind
  | concat => .string
  | compare _ | and | or => .boolean

/-- The kind that both operands are read in. A comparison reads them in their own kinds. -/
def operandKind? : BinaryOperator → Option Kind
  | arithmetic _ numeric => some numeric.kind
  | concat => some .string
  | compare _ => none
  | and | or => some .boolean

def isArithmetic : BinaryOperator → Bool
  | arithmetic _ _ => true
  | _ => false

def name : BinaryOperator → String
  | arithmetic operation numeric => operation.symbol ++ numeric.kind.tag
  | concat => "concat"
  | compare comparison => comparison.symbol
  | and => "and"
  | or => "or"

def all : List BinaryOperator :=
  (Arithmetic.all.flatMap fun operation =>
    [NumericKind.int32, .float64, .decimal].map (arithmetic operation)) ++
    [concat, and, or] ++ Comparison.all.map compare

def ofName? (name : String) : Option BinaryOperator :=
  all.find? fun operator => operator.name == name

example : (arithmetic .plus .int32).name = "+int32" := rfl

end BinaryOperator

inductive UnaryOperator where
  | negate (numeric : NumericKind)
  | not
deriving DecidableEq, Repr

namespace UnaryOperator

def negate? (kind : Kind) : Option UnaryOperator :=
  (NumericKind.ofKind? kind).map negate

def resultKind : UnaryOperator → Kind
  | negate numeric => numeric.kind
  | not => .boolean

def name : UnaryOperator → String
  | negate numeric => "neg-" ++ numeric.kind.tag
  | not => "not"

def all : List UnaryOperator :=
  [negate .int32, negate .float64, negate .decimal, not]

def ofName? (name : String) : Option UnaryOperator :=
  all.find? fun operator => operator.name == name

end UnaryOperator

inductive AggregateFunction where
  /-- The greatest value. -/
  | max
  /-- The standard deviation of a whole population. -/
  | stdevp
deriving DecidableEq, Repr

namespace AggregateFunction

def resultKind : AggregateFunction → Kind → Kind
  | max, inner => inner
  | stdevp, _ => .float64

def name : AggregateFunction → String
  | max => "max"
  | stdevp => "stdevp"

def ofTag? (tag : String) : Option AggregateFunction :=
  [max, stdevp].find? fun function => function.name == tag

def ofName? (name : String) : Option AggregateFunction :=
  ofTag? (name.map Char.toLower)

end AggregateFunction

end GroupedReport
