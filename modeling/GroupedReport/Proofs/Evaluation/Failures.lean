import GroupedReport.Proofs.Evaluation.Ensures
import GroupedReport.Proofs.Result

/-!
# How evaluation fails

Evaluation fails with errors that the values are to blame for, and with no other ones where its
tree has no unknown nodes, its data has all values that are asked for, and its run is free for the
program.
-/

namespace GroupedReport

open Expression

def EvaluationError.IsOfValues : EvaluationError → Prop
  | conversion _ | divisionByZero | overflow _ | notComparable _ _ => True
  | fieldNotFound _ | unknownNode _ | foreignProgram _ _ | noSuchRow _ _ | rowTooLong _ _ _ => False

theorem EvaluationError.isOfValues_ofOperator (error : OperatorError) :
    (ofOperator error).IsOfValues := by
  cases error <;> exact trivial

theorem Run.eq_foreignProgram_of_bindTo {run : Run} {program : ProgramId} {error : EvaluationError}
    (fails : run.bindTo program = .error error) :
    ∃ bound, error = .foreignProgram bound program := by
  rw [bindTo] at fails
  split at fails
  · cases fails
  · split at fails <;> cases fails
    exact ⟨_, rfl⟩

/-! ## Admitted errors -/

namespace Evaluate

def FailsOnly (admitted : EvaluationError → Prop) (result : Except EvaluationError α) : Prop :=
  ∀ error, result = .error error → admitted error

section

variable {invariant : Run → Prop} {admitted : EvaluationError → Prop}

theorem failsOnly_ok {value : α} : FailsOnly admitted (.ok value) := by
  intro error impossible
  cases impossible

theorem failsOnly_error {error : EvaluationError} (isAdmitted : admitted error) :
    FailsOnly admitted (.error error : Except EvaluationError α) := by
  intro other same
  cases same
  exact isAdmitted

theorem failsOnly_mapError {result : Except ε α} {transform : ε → EvaluationError}
    (areAdmitted : ∀ error, admitted (transform error)) :
    FailsOnly admitted (result.mapError transform) := by
  intro error fails
  rcases Result.mapError_eq_error fails with ⟨given, _, rfl⟩
  exact areAdmitted given

theorem Ensures.bind_admitted {action : Evaluate α} {next : α → Evaluate β}
    (first : action.Ensures invariant (FailsOnly admitted))
    (second : ∀ value, (next value).Ensures invariant (FailsOnly admitted)) :
    (action >>= next).Ensures invariant (FailsOnly admitted) :=
  first.bind (fun error fails => failsOnly_error (fails error rfl)) fun value _ => second value

theorem ensures_foldlM_admitted {step : β → RowId → Evaluate β} {rows : List RowId}
    (each : ∀ state, ∀ row ∈ rows, (step state row).Ensures invariant (FailsOnly admitted))
    (state : β) : (rows.foldlM step state).Ensures invariant (FailsOnly admitted) := by
  induction rows generalizing state with
  | nil => exact ensures_pure failsOnly_ok
  | cons row rest induction =>
      rw [List.foldlM_cons]
      apply (each state row List.mem_cons_self).bind_admitted
      intro next
      exact induction
        (fun state other member => each state other (List.mem_cons_of_mem _ member)) next

end

end Evaluate

namespace Aggregate

open Evaluate

variable {invariant : Run → Prop} {admitted : EvaluationError → Prop}

theorem greater_failsOnly (ofValues : ∀ error, error.IsOfValues → admitted error)
    (greatest : Option Value) (item : Value) : FailsOnly admitted (greater greatest item) := by
  unfold greater
  split
  · exact failsOnly_ok
  · split
    · exact failsOnly_ok
    · split
      · exact failsOnly_ok
      · exact failsOnly_ok
      · exact failsOnly_error (ofValues _ trivial)

theorem take_failsOnly (ofValues : ∀ error, error.IsOfValues → admitted error)
    (function : AggregateFunction) (state : function.reduction.State) (item : Value) :
    FailsOnly admitted (function.reduction.take state item) := by
  cases function with
  | max => exact greater_failsOnly ofValues state item
  | stdevp => exact failsOnly_ok

theorem ensures_reduce_admitted (ofValues : ∀ error, error.IsOfValues → admitted error)
    {inner : RowId → Evaluate Value} {rows : List RowId}
    (each : ∀ row ∈ rows, (inner row).Ensures invariant (FailsOnly admitted))
    (function : AggregateFunction) :
    (reduce function inner rows).Ensures invariant (FailsOnly admitted) := by
  rw [reduce_eq]
  apply (ensures_foldlM_admitted ?_ function.reduction.start).bind_admitted
  · exact fun _ => ensures_pure failsOnly_ok
  · intro state row member
    apply (each row member).bind_admitted
    exact fun item => ensures_ofResult (take_failsOnly ofValues function state item)

end Aggregate

/-! ## Evaluations -/

/-- Whether the values that a tree reads in present rows are there, and all of its nodes are known,
or else the errors are admitted. -/
def Expression.Tree.Admits (data : DataSource) (present : RowId → Prop)
    (admitted : EvaluationError → Prop) : Tree → Prop
  | .unknown id => admitted (.unknownNode id)
  | .literal _ _ _ => True
  | .field _ column _ => ∀ row, present row → Evaluate.FailsOnly admitted (data.value row column)
  | .unary _ _ operand => operand.Admits data present admitted
  | .binary _ _ left right => left.Admits data present admitted ∧ right.Admits data present admitted
  | .aggregate _ _ inner _ _ _ => inner.Admits data present admitted

/-- What evaluations over some data rely on: an invariant that each of their steps keeps, rows that
are present wherever a scope covers them, and the errors that are admitted. -/
structure Engine.Runs (engine : Engine) (data : DataSource) (present : RowId → Prop)
    (invariant : Run → Prop) (admitted : EvaluationError → Prop) : Prop where
  steady : Run.Steady engine.program.id invariant
  source {run : Run} : invariant run → run.data = data
  stored {run : Run} (key : AggregateKey) (value : Value) : invariant run →
    invariant { run with cache := run.cache.store (.aggregate key) value }
  covered {scope : Scope} {row? : Option RowId} {extent : Extent} :
    data.extent? scope row? = some extent → ∀ row ∈ extent.rows, present row
  ofValues (error : EvaluationError) : error.IsOfValues → admitted error
  foreign {run : Run} {error : EvaluationError} : invariant run →
    run.bindTo engine.program.id = .error error → admitted error

open Evaluate in
theorem Engine.Runs.ensures_evaluateTree {engine : Engine} {data : DataSource}
    {present : RowId → Prop} {invariant : Run → Prop} {admitted : EvaluationError → Prop}
    (runs : engine.Runs data present invariant admitted) {tree : Tree}
    (admits : tree.Admits data present admitted) {row? : Option RowId}
    (known : ∀ row ∈ row?, present row) :
    (engine.evaluateTree tree row?).Ensures invariant (FailsOnly admitted) := by
  have operators (error : OperatorError) : admitted (.ofOperator error) :=
    runs.ofValues _ (EvaluationError.isOfValues_ofOperator error)
  induction tree generalizing row? with
  | unknown id => exact ensures_throw (failsOnly_error admits)
  | literal id value kind => exact ensures_pure failsOnly_ok
  | field id column kind =>
      cases row? with
      | none => exact ensures_pure failsOnly_ok
      | some row =>
          have reads : (read row column).Ensures invariant (FailsOnly admitted) := by
            apply ensures_read runs.steady
            intro run kept
            rw [runs.source kept]
            exact admits row (known row rfl)
          apply reads.bind_admitted
          intro value
          exact ensures_conversion (failsOnly_mapError fun error => runs.ofValues _ trivial)
  | unary id operator operand induction =>
      apply (induction admits known).bind_admitted
      intro value
      exact ensures_operator (failsOnly_mapError operators)
  | binary id operator left right leftInduction rightInduction =>
      apply (leftInduction admits.1 known).bind_admitted
      intro leftValue
      apply (rightInduction admits.2 known).bind_admitted
      intro rightValue
      exact ensures_operator (failsOnly_mapError operators)
  | aggregate id function inner scope key kind induction =>
      apply ensures_aggregate runs.steady
      · intro run error kept fails
        exact failsOnly_error (runs.foreign kept fails)
      · intro run kept covers
        exact failsOnly_ok
      · intro run extent value caching kept covers held
        exact failsOnly_ok
      · intro run extent kept covers
        rw [runs.source kept] at covers
        apply Aggregate.ensures_reduce_admitted runs.ofValues
        intro row member
        apply induction admits
        rintro other ⟨⟩
        exact runs.covered covers row member
      · intro before after extent value caching kept covers cacheable still given
        exact runs.stored key value still

end GroupedReport
