import GroupedReport.Proofs.Evaluation.Reached

/-!
# Runs that cannot be told apart

What comes of an evaluation depends on the data and on the values that are kept for aggregates, and
on nothing else in a run that is free for the program. Runs that have these in common have them in
common after every evaluation, which has the same result in both.
-/

namespace GroupedReport

open Expression

/-- Whether two runs over some data are free for a program and keep the same values for its
aggregates. -/
structure Run.Resemble (data : DataSource) (program : ProgramId) (first second : Run) : Prop where
  firstOver : first.Over data program
  secondOver : second.Over data program
  kept (key : AggregateKey) :
    first.cache.peek? (.aggregate key) = second.cache.peek? (.aggregate key)

namespace Run.Resemble

variable {data : DataSource} {program : ProgramId} {first second firstAfter secondAfter : Run}

theorem start (free : first.Over data program)
    (absent : ∀ key, first.cache.peek? (.aggregate key) = none) :
    Resemble data program first (.start data) where
  firstOver := free
  secondOver := .start data program
  kept := absent

theorem alike (resemble : Resemble data program first second) (firstAlike : first.Alike firstAfter)
    (firstBound : firstAfter.program? = first.program? ∨ firstAfter.program? = some program)
    (secondAlike : second.Alike secondAfter)
    (secondBound : secondAfter.program? = second.program? ∨ secondAfter.program? = some program) :
    Resemble data program firstAfter secondAfter where
  firstOver := Over.steady firstAlike firstBound resemble.firstOver
  secondOver := Over.steady secondAlike secondBound resemble.secondOver
  kept key := by
    rw [firstAlike.peek?_eq, secondAlike.peek?_eq]
    exact resemble.kept key

theorem store (resemble : Resemble data program first second) (key : AggregateKey) (value : Value) :
    Resemble data program { first with cache := first.cache.store (.aggregate key) value }
      { second with cache := second.cache.store (.aggregate key) value } where
  firstOver := ⟨resemble.firstOver.data, resemble.firstOver.program⟩
  secondOver := ⟨resemble.secondOver.data, resemble.secondOver.program⟩
  kept other := by
    by_cases same : Slot.aggregate other = .aggregate key
    · rw [same, Cache.peek?_store, Cache.peek?_store]
    · rw [Cache.peek?_store_of_ne same, Cache.peek?_store_of_ne same]
      exact resemble.kept other

theorem kept?_eq (resemble : Resemble data program first second) (engine : Engine)
    (key : AggregateKey) : engine.kept? first key = engine.kept? second key := by
  rw [Engine.kept?, Engine.kept?, resemble.kept]

theorem searched (resemble : Resemble data program first second) (engine : Engine)
    (key : AggregateKey) :
    Resemble data program (engine.searched first key) (engine.searched second key) :=
  resemble.alike (first.alike_searched engine key) (.inl (first.program?_searched engine key))
    (second.alike_searched engine key) (.inl (second.program?_searched engine key))

end Run.Resemble

namespace Evaluate

structure SameOutcome (data : DataSource) (program : ProgramId)
    (first second : Except EvaluationError α × Run) : Prop where
  result : first.1 = second.1
  runs : Run.Resemble data program first.2 second.2

/-- Whether an action has the same outcome in all runs that resemble each other. -/
def IsBlind (data : DataSource) (program : ProgramId) (action : Evaluate α) : Prop :=
  ∀ first second, Run.Resemble data program first second →
    SameOutcome data program (action.run first) (action.run second)

variable {data : DataSource} {program : ProgramId}

theorem isBlind_of_run_eq {action : Evaluate α} {result : Except EvaluationError α}
    (equal : ∀ run, action.run run = (result, run)) : IsBlind data program action := by
  intro first second resemble
  rw [equal, equal]
  exact ⟨rfl, resemble⟩

theorem isBlind_pure (value : α) : IsBlind data program (pure value) :=
  isBlind_of_run_eq fun _ => rfl

theorem isBlind_operator (result : Except OperatorError Value) :
    IsBlind data program (operator result) :=
  isBlind_of_run_eq (run_operator result)

theorem isBlind_conversion (result : Except CoercionError α) :
    IsBlind data program (conversion result) :=
  isBlind_of_run_eq (run_conversion result)

theorem isBlind_read (row : RowId) (column : Nat) : IsBlind data program (read row column) := by
  intro first second resemble
  rw [run_read, run_read]
  refine ⟨?_, resemble.alike ⟨rfl, rfl, rfl, id⟩ (.inl rfl) ⟨rfl, rfl, rfl, id⟩ (.inl rfl)⟩
  rw [resemble.firstOver.data, resemble.secondOver.data]

theorem IsBlind.bind {action : Evaluate α} {next : α → Evaluate β}
    (before : IsBlind data program action) (after : ∀ value, IsBlind data program (next value)) :
    IsBlind data program (action >>= next) := by
  intro first second resemble
  rcases before first second resemble with ⟨result, runs⟩
  rw [run_bind, run_bind]
  rcases firstEqual : action.run first with ⟨firstResult, firstBetween⟩
  rcases secondEqual : action.run second with ⟨secondResult, secondBetween⟩
  rw [firstEqual, secondEqual] at result runs
  cases result
  cases firstResult with
  | error error => exact ⟨rfl, runs⟩
  | ok value => exact after value firstBetween secondBetween runs

theorem isBlind_foldlM {step : β → RowId → Evaluate β}
    (each : ∀ state row, IsBlind data program (step state row)) (rows : List RowId) (state : β) :
    IsBlind data program (rows.foldlM step state) := by
  induction rows generalizing state with
  | nil => exact isBlind_pure state
  | cons row rest induction =>
      rw [List.foldlM_cons]
      exact (each state row).bind induction

end Evaluate

open Evaluate

namespace Aggregate

variable {data : DataSource} {inner : RowId → Evaluate Value}

theorem isBlind_reduce {program : ProgramId} (each : ∀ row, IsBlind data program (inner row))
    (function : AggregateFunction) (rows : List RowId) :
    IsBlind data program (reduce function inner rows) := by
  rw [reduce_eq]
  refine (isBlind_foldlM ?_ rows function.reduction.start).bind fun state => isBlind_pure _
  intro state row
  exact (each row).bind fun item => isBlind_of_run_eq (run_ofResult _)

theorem sameOutcome_settle {engine : Engine} {program : ProgramId}
    {first second : Except EvaluationError Value × Run}
    (same : SameOutcome data program first second) (extent : Extent) (key : AggregateKey) :
    SameOutcome data program (engine.settle extent key first)
      (engine.settle extent key second) := by
  rcases first with ⟨firstResult, firstRun⟩
  rcases second with ⟨secondResult, secondRun⟩
  rcases same with ⟨result, runs⟩
  cases result
  cases firstResult with
  | error error => exact ⟨rfl, runs⟩
  | ok value =>
      rw [Engine.settle, Engine.settle]
      refine ⟨rfl, ?_⟩
      dsimp only
      split
      · exact runs.store key value
      · exact runs

theorem isBlind_evaluate {engine : Engine}
    (each : ∀ row, IsBlind data engine.program.id (inner row)) (function : AggregateFunction)
    (scope : Scope) (key : AggregateKey) (row? : Option RowId) :
    IsBlind data engine.program.id (evaluate engine function inner scope key row?) := by
  intro first second resemble
  rcases resemble.firstOver.bindTo_ok with ⟨firstBound, firstBinds⟩
  rcases resemble.secondOver.bindTo_ok with ⟨secondBound, secondBinds⟩
  rcases Run.alike_bindTo firstBinds with ⟨firstAlike, firstProgram⟩
  rcases Run.alike_bindTo secondBinds with ⟨secondAlike, secondProgram⟩
  have bound := resemble.alike firstAlike (.inr firstProgram) secondAlike (.inr secondProgram)
  rw [run_evaluate, run_evaluate, firstBinds, secondBinds]
  dsimp only
  rw [bound.firstOver.data, bound.secondOver.data, bound.kept?_eq engine key]
  cases data.extent? scope row? with
  | none => exact ⟨rfl, bound⟩
  | some extent =>
      have searched := bound.searched engine key
      cases engine.kept? secondBound key with
      | some value => exact ⟨rfl, searched⟩
      | none =>
          have reduced := isBlind_reduce each function extent.rows _ _ searched
          exact sameOutcome_settle reduced extent key

end Aggregate

namespace Engine

variable (engine : Engine) (data : DataSource)

theorem isBlind_evaluateTree (tree : Tree) (row? : Option RowId) :
    IsBlind data engine.program.id (engine.evaluateTree tree row?) := by
  induction tree generalizing row? with
  | unknown id => exact isBlind_of_run_eq fun _ => rfl
  | literal id value kind => exact isBlind_pure value
  | field id column kind =>
      cases row? with
      | none => exact isBlind_pure Value.null
      | some row => exact (isBlind_read row column).bind fun value => isBlind_conversion _
  | unary id operator operand induction =>
      exact (induction row?).bind fun value => isBlind_operator _
  | binary id operator left right leftInduction rightInduction =>
      exact (leftInduction row?).bind fun leftValue =>
        (rightInduction row?).bind fun rightValue => isBlind_operator _
  | aggregate id function inner scope key kind induction =>
      exact Aggregate.isBlind_evaluate (fun row => induction (some row)) function scope key row?

theorem isBlind_evaluateAs (kind : Kind) (id : NodeId) (row? : Option RowId) :
    IsBlind data engine.program.id (engine.evaluateAs kind id row?) := by
  have native := engine.isBlind_evaluateTree data (engine.program.tree id) row?
  rw [evaluateAs]
  split
  · exact native.bind fun value => isBlind_pure _
  · exact native.bind fun value => isBlind_conversion _

end Engine

end GroupedReport
