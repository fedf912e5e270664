import GroupedReport.Evaluation.Run
import GroupedReport.Options

/-!
# Evaluation

Every node of an expression has a value in a row of the data, or outside of any row. Operands are
evaluated from left to right, and the first error ends the evaluation. An aggregate is evaluated
over the rows of its scope; its value is kept in the run, unless its scope looks different from
other rows of the same extent.
-/

namespace GroupedReport

open Expression

structure Engine where
  program : Program
  options : Options := {}

namespace Evaluate

/-- Bind the run to a program, unless it is bound to another one. -/
def bind (program : ProgramId) : Evaluate Unit := do
  let run ← get
  match run.program? with
  | none => set { run with program? := some program }
  | some bound => if bound = program then pure () else throw (.foreignProgram bound program)

def read (row : RowId) (column : Nat) : Evaluate Value := do
  let run ← get
  set { run with reads := run.reads + 1 }
  liftExcept (run.data.value row column)
where
  liftExcept : Except EvaluationError Value → Evaluate Value
    | .ok value => pure value
    | .error error => throw error

def lookup (slot : Slot) : Evaluate (Option Value) := do
  let run ← get
  let (value?, cache) := run.cache.get? slot
  set { run with cache }
  return value?

def keep (slot : Slot) (value : Value) : Evaluate Unit :=
  modify fun run => { run with cache := run.cache.store slot value }

def operator : Except OperatorError Value → Evaluate Value
  | .ok value => pure value
  | .error error => throw (.ofOperator error)

def conversion : Except CoercionError α → Evaluate α
  | .ok value => pure value
  | .error error => throw (.conversion error)

end Evaluate

/-! ## Aggregates -/

namespace Aggregate

/-- The greater of two values, the first one if they are equal. Missing data counts for
nothing, and two values without an order are an error. -/
def greater (greatest : Option Value) (item : Value) :
    Except EvaluationError (Option Value) :=
  if item.isAbsent then .ok greatest
  else match greatest with
    | none => .ok (some item)
    | some current =>
        match current.compare? item with
        | some .lt => .ok (some item)
        | some _ => .ok (some current)
        | none => .error (.notComparable current.kind? item.kind?)

structure Moments where
  count : Nat := 0
  sum : Float := Binary64.zero false
  squares : Float := Binary64.zero false

namespace Moments

/-- Take in one more value, unless it is missing or no number. -/
def add (moments : Moments) (item : Value) : Moments :=
  match item.toFloat64 with
  | .ok number =>
      if number.isNaN then moments
      else
        { count := moments.count + 1
          sum := moments.sum + number
          squares := moments.squares + number * number }
  | .error _ => moments

/-- The standard deviation, missing if there are no numbers. Where rounding makes the variance
negative, or it has no value, it is zero. -/
def deviation (moments : Moments) : Float :=
  if moments.count = 0 then Binary64.notANumber
  else
    let count := Binary64.ofNat moments.count
    let variance :=
      (count * moments.squares - moments.sum * moments.sum) / (count * count)
    (if Binary64.zero false < variance then variance else Binary64.zero false).sqrt

end Moments

def noData : AggregateFunction → Value
  | .max => .null
  | .stdevp => .float64 Binary64.notANumber

def greaterStep (greatest : Option Value) (item : Value) : Evaluate (Option Value) :=
  match greater greatest item with
  | .ok greatest => pure greatest
  | .error error => throw error

def reduce (function : AggregateFunction) (inner : RowId → Evaluate Value)
    (rows : List RowId) : Evaluate Value :=
  match function with
  | .max => do
      let greatest ← rows.foldlM (fun greatest row => do greaterStep greatest (← inner row)) none
      return greatest.getD .null
  | .stdevp => do
      let moments ← rows.foldlM (fun moments row => do return moments.add (← inner row)) {}
      return .float64 (Moments.deviation moments)

/-- The value of an aggregate with a key: a kept one, or else the reduction over the rows of its
scope. A scope without an extent has no data, and nothing is kept for it. -/
def evaluate (engine : Engine) (function : AggregateFunction)
    (inner : RowId → Evaluate Value) (scope : Scope) (key : AggregateKey)
    (row? : Option RowId) : Evaluate Value := do
  Evaluate.bind engine.program.id
  match (← get).data.extent? scope row? with
  | none => return noData function
  | some extent =>
      let slot := Slot.aggregate key
      let caching := engine.options.cacheAggregates
      match ← if caching then Evaluate.lookup slot else pure none with
      | some value => return value
      | none =>
          let value ← reduce function inner extent.rows
          if caching && extent.cacheable then Evaluate.keep slot value
          return value

end Aggregate

namespace Engine

def evaluateTree (engine : Engine) : Tree → Option RowId → Evaluate Value
  | .unknown id, _ => throw (.unknownNode id)
  | .literal _ value _, _ => return value
  | .field _ _ _, none => return .null
  | .field _ column kind, some row => do
      let value ← Evaluate.read row column
      Evaluate.conversion (value.coerce kind)
  | .unary _ operator operand, row? => do
      let value ← evaluateTree engine operand row?
      Evaluate.operator (Operator.unary operator value)
  | .binary _ operator left right, row? => do
      let leftValue ← evaluateTree engine left row?
      let rightValue ← evaluateTree engine right row?
      Evaluate.operator (Operator.binary operator leftValue rightValue)
  | .aggregate _ function inner scope key _, row? =>
      Aggregate.evaluate engine function (fun row => evaluateTree engine inner (some row))
        scope key row?

def native (engine : Engine) (id : NodeId) (row? : Option RowId) : Evaluate Value :=
  engine.evaluateTree (engine.program.tree id) row?

/-- The value of a node, null if data is missing. -/
def evaluate (engine : Engine) (id : NodeId) (row? : Option RowId) : Evaluate Value := do
  let value ← engine.native id row?
  return if value.isAbsent then .null else value

/-- The value of a node read in a kind. Missing data becomes what stands for it in the kind. -/
def evaluateAs (engine : Engine) (kind : Kind) (id : NodeId) (row? : Option RowId) :
    Evaluate Value :=
  if kind = .object then engine.evaluate id row?
  else do
    let value ← engine.native id row?
    Evaluate.conversion (value.readAs kind)

def kind (engine : Engine) (id : NodeId) : Except EvaluationError Kind :=
  match engine.program.nodes[id]? with
  | some node => .ok node.kind
  | none => .error (.unknownNode id)

end Engine

end GroupedReport
