import GroupedReport.Proofs.Data.Scope
import GroupedReport.Proofs.Evaluation.Ensures
import GroupedReport.Proofs.Expression.Shape
import Mathlib.Data.List.Nodup

/-!
# Values without a run

A tree has a value in a row that depends on the data alone. Evaluation gives that value in every
run whose kept values are those that the aggregates have where one looks from.
-/

namespace GroupedReport

open Expression

/-! ## Values of trees -/

def Aggregate.reduced (function : AggregateFunction)
    (inner : RowId → Except EvaluationError Value) (rows : List RowId) :
    Except EvaluationError Value :=
  match function with
  | .max => do
      let greatest ← rows.foldlM (fun greatest row => do greater greatest (← inner row)) none
      return greatest.getD .null
  | .stdevp => do
      let moments ← rows.foldlM
        (fun (moments : Moments) row => do return moments.add (← inner row)) {}
      return .float64 moments.deviation

theorem Aggregate.reduced_eq (function : AggregateFunction)
    (inner : RowId → Except EvaluationError Value) (rows : List RowId) :
    reduced function inner rows =
      rows.foldlM (fun state row => inner row >>= function.reduction.take state)
          function.reduction.start >>= fun state =>
        .ok (function.reduction.finish state) := by
  cases function <;> rfl

def Expression.Tree.value (data : DataSource) :
    Tree → Option RowId → Except EvaluationError Value
  | .unknown id, _ => .error (.unknownNode id)
  | .literal _ value _, _ => .ok value
  | .field _ _ _, none => .ok .null
  | .field _ column kind, some row => do
      let value ← data.value row column
      (value.coerce kind).mapError .conversion
  | .unary _ operator operand, row? => do
      let value ← operand.value data row?
      (Operator.unary operator value).mapError .ofOperator
  | .binary _ operator left right, row? => do
      let leftValue ← left.value data row?
      let rightValue ← right.value data row?
      (Operator.binary operator leftValue rightValue).mapError .ofOperator
  | .aggregate _ function inner scope _ _, row? =>
      match data.extent? scope row? with
      | none => .ok (Aggregate.noData function)
      | some extent =>
          Aggregate.reduced function (fun row => inner.value data (some row)) extent.rows

def Expression.Aggregation.value (data : DataSource) (aggregation : Aggregation)
    (row? : Option RowId) : Except EvaluationError Value :=
  (Tree.aggregate 0 aggregation.function aggregation.inner aggregation.scope aggregation.key
    aggregation.kind).value data row?

namespace Evaluate

variable {invariant : Run → Prop}

theorem Ensures.bind_eq {action : Evaluate α} {next : α → Evaluate β}
    {first : Except EvaluationError α} {second : α → Except EvaluationError β}
    (ensures : Ensures invariant (· = first) action)
    (each : ∀ value, Ensures invariant (· = second value) (next value)) :
    Ensures invariant (· = first >>= second) (action >>= next) := by
  apply ensures.bind
  · intro error equal
    rw [← equal]
    rfl
  · intro value equal
    rw [← equal]
    exact each value

end Evaluate

namespace Aggregate

open Evaluate

theorem ensures_reduced {invariant : Run → Prop} {inner : RowId → Evaluate Value}
    {expected : RowId → Except EvaluationError Value} {rows : List RowId}
    (each : ∀ row ∈ rows, Ensures invariant (· = expected row) (inner row))
    (function : AggregateFunction) :
    Ensures invariant (· = reduced function expected rows) (reduce function inner rows) := by
  rw [reduced_eq, reduce_eq]
  apply Ensures.bind_eq
  · apply ensures_foldlM_eq
    intro state row member
    exact (each row member).bind_eq fun item => ensures_ofResult rfl
  · intro state
    exact ensures_pure rfl

end Aggregate

/-! ## Runs that keep values of now -/

/-- What an evaluation relies on: the aggregates that values are kept for, and where they are
looked at from. -/
structure Outlook where
  program : ProgramId
  data : DataSource
  aggregations : List Aggregation
  sees : Option RowId → Prop

namespace Outlook

/-- Whether no two aggregates share a key, no aggregate lies inside of another, and shared scopes
look the same from everywhere. -/
structure Clear (outlook : Outlook) : Prop where
  distinct : (outlook.aggregations.map Aggregation.key).Nodup
  flat : ∀ aggregation ∈ outlook.aggregations, aggregation.inner.aggregations = []
  shares : outlook.data.SharesByScope
  same {scope : Scope} {first second : Option RowId} : scope.isShared = true →
    outlook.sees first → outlook.sees second →
      outlook.data.extent? scope first = outlook.data.extent? scope second

end Outlook

/-- Whether all that a run keeps for aggregates are the values that they have, and whether
elements still find what they have stored under their names. -/
structure Run.Current (outlook : Outlook) (stored : List (String × String × Value)) (run : Run) :
    Prop where
  data : run.data = outlook.data
  program : run.program? = none ∨ run.program? = some outlook.program
  value {aggregation : Aggregation} {value : Value} {row? : Option RowId} :
    aggregation ∈ outlook.aggregations →
      run.cache.peek? (.aggregate aggregation.key) = some value → outlook.sees row? →
        aggregation.value outlook.data row? = .ok value
  state {owner name : String} {value : Value} :
    (owner, name, value) ∈ stored → run.workState? owner name = some value

namespace Run.Current

variable {outlook : Outlook} {stored : List (String × String × Value)}

theorem steady : Run.Steady outlook.program (Run.Current outlook stored) := by
  intro before after alike program current
  have free := Run.Over.steady alike program ⟨current.data, current.program⟩
  refine ⟨free.data, free.program, ?_, ?_⟩
  · intro aggregation value row? member held seen
    rw [alike.peek?_eq] at held
    exact current.value member held seen
  · intro owner name value member
    rw [workState?, alike.peek?_eq]
    exact current.state member

theorem bindTo_ok {run : Run} (current : run.Current outlook stored) :
    ∃ bound, run.bindTo outlook.program = .ok bound :=
  Run.Over.bindTo_ok ⟨current.data, current.program⟩

theorem store (clear : outlook.Clear) {run : Run} (current : run.Current outlook stored)
    {aggregation : Aggregation} (member : aggregation ∈ outlook.aggregations)
    {row? : Option RowId} (seen : outlook.sees row?) (shared : aggregation.scope.isShared = true)
    {value : Value} (given : aggregation.value outlook.data row? = .ok value) :
    Run.Current outlook stored
      { run with cache := run.cache.store (.aggregate aggregation.key) value } where
  data := current.data
  program := current.program
  value {other held from?} otherMember otherHeld sees := by
    by_cases same : other.key = aggregation.key
    · have equal := List.inj_on_of_nodup_map clear.distinct otherMember member same
      rw [equal, Cache.peek?_store] at otherHeld
      cases otherHeld
      rw [equal, ← given, Aggregation.value, Aggregation.value, Tree.value, Tree.value,
        clear.same shared sees seen]
    · have different : Slot.aggregate other.key ≠ .aggregate aggregation.key :=
        fun equal => same (Slot.aggregate.inj equal)
      rw [Cache.peek?_store_of_ne different] at otherHeld
      exact current.value otherMember otherHeld sees
  state {owner name found} entry := by
    rw [workState?, Cache.peek?_store_of_ne Slot.noConfusion]
    exact current.state entry

theorem setWorkState {run : Run} (current : run.Current outlook stored) {owner : String}
    (own : ∀ entry ∈ stored, entry.1 ≠ owner) (name : String) (value : Value) :
    (run.setWorkState owner name value).Current outlook ((owner, name, value) :: stored) where
  data := current.data
  program := current.program
  value member held sees := by
    rw [Run.setWorkState, Cache.peek?_store_of_ne Slot.noConfusion] at held
    exact current.value member held sees
  state {other otherName found} entry := by
    rcases List.mem_cons.mp entry with new | old
    · cases new
      exact Cache.peek?_store ..
    · have different : Slot.workState other otherName ≠ .workState owner name := by
        intro same
        exact own _ old (Slot.workState.inj same).1
      rw [workState?, Run.setWorkState, Cache.peek?_store_of_ne different]
      exact current.state old

theorem forget {run : Run} (current : run.Current outlook stored)
    {fewer : List (String × String × Value)} (subset : ∀ entry ∈ fewer, entry ∈ stored) :
    run.Current outlook fewer :=
  { current with state := fun member => current.state (subset _ member) }

end Run.Current

/-! ## Evaluation -/

open Evaluate

namespace Outlook.Clear

variable {outlook : Outlook} (clear : outlook.Clear) {stored : List (String × String × Value)}
  {engine : Engine} (own : engine.program.id = outlook.program)
include clear own

theorem ensures_aggregation {aggregation : Aggregation}
    (member : aggregation ∈ outlook.aggregations) {inner : RowId → Evaluate Value}
    (inside : ∀ row, (inner row).Ensures (Run.Current outlook stored)
      (· = aggregation.inner.value outlook.data (some row)))
    {row? : Option RowId} (sees : outlook.sees row?) :
    (Aggregate.evaluate engine aggregation.function inner aggregation.scope aggregation.key
      row?).Ensures (Run.Current outlook stored) (· = aggregation.value outlook.data row?) := by
  have steady : Run.Steady engine.program.id (Run.Current outlook stored) := by
    rw [own]
    exact Run.Current.steady
  apply ensures_aggregate steady
  · intro run error current fails
    rcases current.bindTo_ok with ⟨bound, binds⟩
    rw [own, binds] at fails
    cases fails
  · intro run current covers
    rw [current.data] at covers
    rw [Aggregation.value, Tree.value, covers]
  · intro run extent value _ current covers held
    exact (current.value member held sees).symm
  · intro run extent current covers
    rw [current.data] at covers
    rw [Aggregation.value, Tree.value, covers]
    exact Aggregate.ensures_reduced (fun row _ => inside row) aggregation.function
  · intro before after extent value _ current covers cacheable stillCurrent given
    rw [current.data] at covers
    rw [clear.shares covers] at cacheable
    exact stillCurrent.store clear member sees cacheable given.symm

theorem ensures_evaluateTree (tree : Tree) {row? : Option RowId}
    (seen : ∀ aggregation ∈ tree.aggregations,
      aggregation ∈ outlook.aggregations ∧ outlook.sees row?) :
    (engine.evaluateTree tree row?).Ensures (Run.Current outlook stored)
      (· = tree.value outlook.data row?) := by
  induction tree generalizing row? with
  | unknown id => exact ensures_throw rfl
  | literal id value kind => exact ensures_pure rfl
  | field id column kind =>
      cases row? with
      | none => exact ensures_pure rfl
      | some row =>
          apply Ensures.bind_eq
          · apply ensures_read Run.Current.steady
            intro run current
            rw [current.data]
          · intro value
            exact ensures_conversion rfl
  | unary id operator operand induction =>
      apply (induction seen).bind_eq
      intro value
      exact ensures_operator rfl
  | binary id operator left right leftInduction rightInduction =>
      have leftSeen := leftInduction fun aggregation member =>
        seen aggregation (List.mem_append_left _ member)
      have rightSeen := rightInduction fun aggregation member =>
        seen aggregation (List.mem_append_right _ member)
      apply leftSeen.bind_eq
      intro leftValue
      apply rightSeen.bind_eq
      intro rightValue
      exact ensures_operator rfl
  | aggregate id function inner scope key kind induction =>
      rcases seen _ List.mem_cons_self with ⟨member, sees⟩
      apply clear.ensures_aggregation own member _ sees
      -- No aggregate lies inside of another, so what is inside may be looked at from any row.
      intro row
      apply induction
      intro aggregation inInner
      rw [clear.flat _ member] at inInner
      cases inInner

end Outlook.Clear

end GroupedReport
