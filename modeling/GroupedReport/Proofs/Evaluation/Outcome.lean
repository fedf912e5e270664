import GroupedReport.Evaluation.Engine

/-!
# Outcomes of evaluation

An evaluation gives a result and the run it leaves, whether it fails or not. Every step of
evaluation has one equation for its outcome here, and everything else about evaluation is
derived from these equations.
-/

namespace GroupedReport

open Expression

namespace Evaluate

theorem run_bind (action : Evaluate α) (next : α → Evaluate β) (run : Run) :
    (action >>= next).run run =
      match action.run run with
      | (.ok value, after) => (next value).run after
      | (.error error, after) => (.error error, after) := by
  change ExceptT.bindCont next (action.run run).1 (action.run run).2 = _
  rcases action.run run with ⟨_ | _, _⟩ <;> rfl

theorem run_bind_pure (action : Evaluate α) (transform : α → β) (run : Run) :
    (action >>= fun value => pure (transform value)).run run =
      ((action.run run).1.map transform, (action.run run).2) := by
  rw [run_bind]
  rcases action.run run with ⟨_ | value, after⟩ <;> rfl

theorem run_get_bind (next : Run → Evaluate β) (run : Run) :
    (get >>= next).run run = (next run).run run := rfl

theorem run_read (row : RowId) (column : Nat) (run : Run) :
    (read row column).run run =
      (run.data.value row column, { run with reads := run.reads + 1 }) := by
  change (read.liftExcept (run.data.value row column)).run _ = _
  cases run.data.value row column <;> rfl

theorem run_lookup (slot : Slot) (run : Run) :
    (lookup slot).run run =
      (.ok (run.cache.peek? slot), { run with cache := (run.cache.get? slot).2 }) := by
  change (Except.ok (run.cache.get? slot).1, _) = _
  rw [Cache.get?]
  cases run.cache.peek? slot <;> rfl

theorem run_operator (result : Except OperatorError Value) (run : Run) :
    (operator result).run run = (result.mapError .ofOperator, run) := by
  cases result <;> rfl

theorem run_conversion (result : Except CoercionError α) (run : Run) :
    (conversion result).run run = (result.mapError .conversion, run) := by
  cases result <;> rfl

def ofResult : Except EvaluationError α → Evaluate α
  | .ok value => pure value
  | .error error => throw error

theorem run_ofResult (result : Except EvaluationError α) (run : Run) :
    (ofResult result).run run = (result, run) := by
  cases result <;> rfl

end Evaluate

/-! ## Reductions -/

/-- How values are reduced: they are taken in one after the other, which leaves the run alone, and
in the end a value is made of what came of them. -/
structure Aggregate.Reduction where
  State : Type
  start : State
  take : State → Value → Except EvaluationError State
  finish : State → Value

def AggregateFunction.reduction : AggregateFunction → Aggregate.Reduction
  | max =>
      { State := Option Value
        start := none
        take := Aggregate.greater
        finish := fun greatest => greatest.getD .null }
  | stdevp =>
      { State := Aggregate.Moments
        start := {}
        take := fun moments item => .ok (moments.add item)
        finish := fun moments => .float64 moments.deviation }

namespace Aggregate

def takeRow (function : AggregateFunction) (inner : RowId → Evaluate Value)
    (state : function.reduction.State) (row : RowId) : Evaluate function.reduction.State := do
  Evaluate.ofResult (function.reduction.take state (← inner row))

/-- Every reduction is a loop over its rows. Whatever else is said of reductions is derived from
this. -/
theorem reduce_eq (function : AggregateFunction) (inner : RowId → Evaluate Value)
    (rows : List RowId) :
    reduce function inner rows =
      rows.foldlM (takeRow function inner) function.reduction.start >>= fun state =>
        pure (function.reduction.finish state) := by
  cases function with
  | max =>
      have same : greaterStep = fun greatest item => Evaluate.ofResult (greater greatest item) := by
        funext greatest item
        rw [greaterStep]
        cases greater greatest item <;> rfl
      rw [reduce, same]
      rfl
  | stdevp => rfl

theorem run_reduce (function : AggregateFunction) (inner : RowId → Evaluate Value)
    (rows : List RowId) (run : Run) :
    (reduce function inner rows).run run =
      (((rows.foldlM (takeRow function inner) function.reduction.start).run run).1.map
          function.reduction.finish,
        ((rows.foldlM (takeRow function inner) function.reduction.start).run run).2) := by
  rw [reduce_eq]
  exact Evaluate.run_bind_pure _ function.reduction.finish run

end Aggregate

/-! ## Aggregates -/

def Run.bindTo (run : Run) (program : ProgramId) : Except EvaluationError Run :=
  match run.program? with
  | none => .ok { run with program? := some program }
  | some bound => if bound = program then .ok run else .error (.foreignProgram bound program)

namespace Engine

def kept? (engine : Engine) (run : Run) (key : AggregateKey) : Option Value :=
  if engine.options.cacheAggregates then run.cache.peek? (.aggregate key) else none

def searched (engine : Engine) (run : Run) (key : AggregateKey) : Run :=
  if engine.options.cacheAggregates then
    { run with cache := (run.cache.get? (.aggregate key)).2 }
  else run

/-- The outcome of an aggregate whose rows were reduced: a value over an extent that may be
kept is kept. -/
def settle (engine : Engine) (extent : Extent) (key : AggregateKey) :
    Except EvaluationError Value × Run → Except EvaluationError Value × Run
  | (.ok value, run) =>
      (.ok value,
        if engine.options.cacheAggregates && extent.cacheable then
          { run with cache := run.cache.store (.aggregate key) value }
        else run)
  | (.error error, run) => (.error error, run)

end Engine

theorem Evaluate.run_bindProgram (program : ProgramId) (run : Run) :
    (Evaluate.bind program).run run =
      match run.bindTo program with
      | .ok bound => (.ok (), bound)
      | .error error => (.error error, run) := by
  rw [Evaluate.bind, Evaluate.run_get_bind, Run.bindTo]
  cases run.program? with
  | none => rfl
  | some bound =>
      dsimp only
      split <;> rfl

/-- All that evaluating an aggregate can do. -/
theorem Aggregate.run_evaluate (engine : Engine) (function : AggregateFunction)
    (inner : RowId → Evaluate Value) (scope : Scope) (key : AggregateKey)
    (row? : Option RowId) (run : Run) :
    (Aggregate.evaluate engine function inner scope key row?).run run =
      match run.bindTo engine.program.id with
      | .error error => (.error error, run)
      | .ok bound =>
          match bound.data.extent? scope row? with
          | none => (.ok (Aggregate.noData function), bound)
          | some extent =>
              match engine.kept? bound key with
              | some value => (.ok value, engine.searched bound key)
              | none =>
                  engine.settle extent key
                    ((Aggregate.reduce function inner extent.rows).run
                      (engine.searched bound key)) := by
  rw [Aggregate.evaluate, Evaluate.run_bind, Evaluate.run_bindProgram]
  cases run.bindTo engine.program.id with
  | error error => rfl
  | ok bound =>
      dsimp only
      rw [Evaluate.run_get_bind]
      cases bound.data.extent? scope row? with
      | none => rfl
      | some extent =>
          cases caching : engine.options.cacheAggregates with
          | false =>
              simp only [Engine.kept?, Engine.searched, caching, Bool.false_eq_true, if_false,
                pure_bind, Bool.false_and, Evaluate.run_bind]
              rcases (Aggregate.reduce function inner extent.rows).run bound with ⟨_ | _, _⟩
              · rfl
              · simp only [Engine.settle, caching, Bool.false_and]
                rfl
          | true =>
              simp only [Engine.kept?, Engine.searched, caching, if_true, Bool.true_and,
                Evaluate.run_bind, Evaluate.run_lookup]
              cases bound.cache.peek? (.aggregate key) with
              | some value => rfl
              | none =>
                  simp only [Evaluate.run_bind]
                  rcases (Aggregate.reduce function inner extent.rows).run _ with ⟨_ | _, _⟩
                  · rfl
                  · simp only [Engine.settle, caching, Bool.true_and]
                    cases extent.cacheable <;> rfl

theorem Engine.result_settle (engine : Engine) (extent : Extent) (key : AggregateKey)
    (outcome : Except EvaluationError Value × Run) :
    (engine.settle extent key outcome).1 = outcome.1 := by
  rcases outcome with ⟨_ | value, after⟩ <;> rfl

theorem Aggregate.result_evaluate {engine : Engine} {function : AggregateFunction}
    {inner : RowId → Evaluate Value} {scope : Scope} {key : AggregateKey} {row? : Option RowId}
    {run bound : Run} {extent : Extent} (binds : run.bindTo engine.program.id = .ok bound)
    (covers : bound.data.extent? scope row? = some extent)
    (missing : engine.kept? bound key = none) :
    ((Aggregate.evaluate engine function inner scope key row?).run run).1 =
      ((Aggregate.reduce function inner extent.rows).run (engine.searched bound key)).1 := by
  rw [Aggregate.run_evaluate, binds]
  dsimp only
  rw [covers]
  dsimp only
  rw [missing]
  exact engine.result_settle extent key _

/-! ## Trees -/

namespace Engine

variable (engine : Engine)

theorem run_field (id : NodeId) (column : Nat) (kind : Kind) (row : RowId) (run : Run) :
    (engine.evaluateTree (.field id column kind) (some row)).run run =
      ((run.data.value row column).bind fun value => (value.coerce kind).mapError .conversion,
        { run with reads := run.reads + 1 }) := by
  rw [evaluateTree, Evaluate.run_bind, Evaluate.run_read]
  cases run.data.value row column with
  | ok value => exact Evaluate.run_conversion _ _
  | error error => rfl

theorem run_unary (id : NodeId) (operator : UnaryOperator) (operand : Tree)
    (row? : Option RowId) (run : Run) :
    (engine.evaluateTree (.unary id operator operand) row?).run run =
      (((engine.evaluateTree operand row?).run run).1.bind fun value =>
          (Operator.unary operator value).mapError .ofOperator,
        ((engine.evaluateTree operand row?).run run).2) := by
  rw [evaluateTree, Evaluate.run_bind]
  rcases (engine.evaluateTree operand row?).run run with ⟨_ | value, after⟩
  · rfl
  · exact Evaluate.run_operator _ after

theorem run_binary (id : NodeId) (operator : BinaryOperator) (left right : Tree)
    (row? : Option RowId) (run : Run) :
    (engine.evaluateTree (.binary id operator left right) row?).run run =
      match (engine.evaluateTree left row?).run run with
      | (.error error, after) => (.error error, after)
      | (.ok leftValue, between) =>
          (((engine.evaluateTree right row?).run between).1.bind fun rightValue =>
              (Operator.binary operator leftValue rightValue).mapError .ofOperator,
            ((engine.evaluateTree right row?).run between).2) := by
  rw [evaluateTree, Evaluate.run_bind]
  rcases (engine.evaluateTree left row?).run run with ⟨_ | leftValue, between⟩
  · rfl
  · dsimp only
    rw [Evaluate.run_bind]
    rcases (engine.evaluateTree right row?).run between with ⟨_ | rightValue, after⟩
    · rfl
    · exact Evaluate.run_operator _ after

theorem result_binary {engine : Engine} {id : NodeId} {operator : BinaryOperator}
    {left right : Tree} {row? : Option RowId} {run between : Run} {leftValue rightValue : Value}
    (leftGiven : (engine.evaluateTree left row?).run run = (.ok leftValue, between))
    (rightGiven : ((engine.evaluateTree right row?).run between).1 = .ok rightValue) :
    ((engine.evaluateTree (.binary id operator left right) row?).run run).1 =
      (Operator.binary operator leftValue rightValue).mapError .ofOperator := by
  rw [run_binary, leftGiven]
  dsimp only
  rw [rightGiven]
  rfl

end Engine

end GroupedReport
