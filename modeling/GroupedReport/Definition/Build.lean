import GroupedReport.Definition.Formula
import GroupedReport.Expression.Builder
import GroupedReport.Fields
import GroupedReport.Value.Json

/-!
# Building formulas

A formula becomes nodes of a builder. Names of fields, types, operators and functions are
resolved; a name that means nothing, or a missing operand, is reported and a null stands in.
-/

namespace GroupedReport

open Expression

namespace Formula

inductive Operation where
  | arithmetic (operation : Arithmetic)
  | compare (comparison : Comparison)
  | and
  | or
deriving DecidableEq, Repr

namespace Operation

def spellings : List (String × Operation) :=
  [("+", arithmetic .plus), ("-", arithmetic .minus), ("*", arithmetic .multiply),
    ("/", arithmetic .divide),
    ("=", compare .equal), ("==", compare .equal),
    ("!=", compare .notEqual), ("<>", compare .notEqual),
    ("<", compare .less), ("<=", compare .lessOrEqual),
    (">", compare .greater), (">=", compare .greaterOrEqual),
    ("and", and), ("&&", and), ("or", or), ("||", or)]

def ofSpelling? (spelling : String) : Option Operation :=
  spellings.lookup (Text.asciiLowercase spelling)

/-- The kind of an operand that stands in where both are missing. -/
def fallbackKind : Operation → Kind
  | arithmetic _ => .int32
  | compare _ => .object
  | and | or => .boolean

def build (operation : Operation) (left right : NodeId) : Build NodeId :=
  match operation with
  | arithmetic operation => Build.arithmetic operation left right
  | compare comparison => Build.binary (.compare comparison) left right
  | and => Build.binary .and left right
  | or => Build.binary .or left right

end Operation

inductive UnaryOperation where
  | negate
  | not
deriving DecidableEq, Repr

def UnaryOperation.ofSpelling? (spelling : String) : Option UnaryOperation :=
  let lower := Text.asciiLowercase spelling
  if lower = "-" ∨ lower = "negate" then some negate
  else if lower = "not" ∨ lower = "!" then some not
  else none

/-- Report something, and let an opaque null stand in. -/
def degrade (code : Diagnostic.Code) (message : String) : Build NodeId := do
  Build.report (.error code message)
  Build.null .object

def buildTyped (kind : Kind) (json : Json) : Build NodeId :=
  match Value.ofJson kind json with
  | .ok value => if value.isNull then Build.null kind else Build.literal value
  | .error error => do
      Build.report (.error .invalidLiteral
        ("Invalid " ++ kind.name ++ " literal " ++ json.compact ++ ": " ++ error.message))
      Build.null kind

def buildField (fields : Fields) (name : String) : Build NodeId :=
  match fields.get? name with
  | some found => Build.field found.column found.kind
  | none => degrade .unknownField ("Unknown field '" ++ name ++ "'.")

def buildUnary (spelling : String) (operand : Option NodeId) : Build NodeId :=
  match UnaryOperation.ofSpelling? spelling with
  | some .negate => do Build.negate (← Build.require operand "Negate" "Operand" .int32)
  | some .not => do Build.unary .not (← Build.require operand "Not" "Operand" .boolean)
  | none => degrade .unknownElement ("Unknown unary operator '" ++ spelling ++ "'.")

/-- A binary operation on operands that may be missing. A null that stands in has the kind of
the other operand. -/
def buildBinary (spelling : String) (left right : Option NodeId) : Build NodeId :=
  match Operation.ofSpelling? spelling with
  | none => degrade .unknownElement ("Unknown binary operator '" ++ spelling ++ "'.")
  | some operation => do
      let owner := "Operator '" ++ spelling ++ "'"
      let kind ← match left <|> right with
        | some present => Build.kind present
        | none => pure operation.fallbackKind
      let left ← Build.require left owner "Left" kind
      let right ← Build.require right owner "Right" kind
      operation.build left right

def buildAggregate (spelling : String) (inner : Option NodeId) (scope : Scope) :
    Build NodeId :=
  match AggregateFunction.ofName? spelling with
  | none => degrade .unknownAggregate ("Unknown aggregate function '" ++ spelling ++ "'.")
  | some function => do
      let owner := "Aggregate '" ++ function.name ++ "'"
      let inner ← Build.require inner owner "Expression" .float64
      Build.aggregate function inner scope

mutual

def build (fields : Fields) : Formula → Build NodeId
  | .literal value => Build.literal (Value.infer value.val)
  | .typed value typeName =>
      match Kind.ofName? typeName with
      | some kind => buildTyped kind value.val
      | none => degrade .invalidLiteral ("Unknown literal type '" ++ typeName ++ "'.")
  | .field name => buildField fields name
  | .unary operator operand => do
      buildUnary operator (← buildOperand fields operand)
  | .binary operator left right => do
      let left ← buildOperand fields left
      let right ← buildOperand fields right
      buildBinary operator left right
  | .aggregate function inner scope => do
      buildAggregate function (← buildOperand fields inner) scope

def buildOperand (fields : Fields) : Option Formula → Build (Option NodeId)
  | none => pure none
  | some formula => do return some (← build fields formula)

end

end Formula

end GroupedReport
