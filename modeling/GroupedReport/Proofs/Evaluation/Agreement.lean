import GroupedReport.Proofs.Evaluation.Ensures

/-!
# Actions that agree

Two actions agree under an invariant of runs if they have the same outcome in every run with the
invariant. Evaluation respects this: steps that agree can stand in for each other.
-/

namespace GroupedReport

open Expression

namespace Evaluate

/-- Whether two actions cannot be told apart in runs with an invariant. -/
def Agree (invariant : Run → Prop) (first second : Evaluate α) : Prop :=
  ∀ run, invariant run → first.run run = second.run run

variable {invariant : Run → Prop}

theorem agree_refl (action : Evaluate α) : Agree invariant action action :=
  fun _ _ => rfl

theorem Agree.trans {first second third : Evaluate α} (left : Agree invariant first second)
    (right : Agree invariant second third) : Agree invariant first third :=
  fun run kept => (left run kept).trans (right run kept)

theorem Agree.ensures {first second : Evaluate α} {outcome : Except EvaluationError α → Prop}
    (agree : Agree invariant first second) (ensures : Ensures invariant outcome second) :
    Ensures invariant outcome first := by
  intro run kept
  rw [agree run kept]
  exact ensures run kept

/-- Agreement one action after the other. The second ones start where the first ones keep the
invariant. -/
theorem Agree.bind {first second : Evaluate α} {outcome : Except EvaluationError α → Prop}
    {next other : α → Evaluate β} (agree : Agree invariant first second)
    (ensures : Ensures invariant outcome second)
    (each : ∀ value, outcome (.ok value) → Agree invariant (next value) (other value)) :
    Agree invariant (first >>= next) (second >>= other) := by
  intro run kept
  rcases ensures run kept with ⟨holds, still⟩
  rw [run_bind, run_bind, agree run kept]
  rcases equal : second.run run with ⟨_ | value, after⟩
  · rfl
  · rw [equal] at holds still
    exact each value holds after still

theorem Agree.before {first second : Evaluate α} (agree : Agree invariant first second)
    (next : α → Evaluate β) : Agree invariant (first >>= next) (second >>= next) := by
  intro run kept
  rw [run_bind, run_bind, agree run kept]

theorem agree_foldlM {step other : β → RowId → Evaluate β}
    (each : ∀ state row, Agree invariant (step state row) (other state row))
    (ensures : ∀ state row, Ensures invariant (fun _ => True) (other state row))
    (rows : List RowId) (state : β) :
    Agree invariant (rows.foldlM step state) (rows.foldlM other state) := by
  induction rows generalizing state with
  | nil => exact agree_refl _
  | cons row rest induction =>
      rw [List.foldlM_cons, List.foldlM_cons]
      exact (each state row).bind (ensures state row) fun next _ => induction next

end Evaluate

namespace Aggregate

open Evaluate

variable {invariant : Run → Prop} {inner other : RowId → Evaluate Value}

theorem agree_reduce (each : ∀ row, Agree invariant (inner row) (other row))
    (ensures : ∀ row, Ensures invariant (fun _ => True) (other row))
    (function : AggregateFunction) (rows : List RowId) :
    Agree invariant (reduce function inner rows) (reduce function other rows) := by
  rw [reduce_eq, reduce_eq]
  refine (agree_foldlM ?_ ?_ rows function.reduction.start).before _
  · intro state row
    exact (each row).before _
  · intro state row
    exact (ensures row).bind (fun _ _ => trivial) fun item _ => ensures_ofResult trivial

theorem agree_evaluate {engine : Engine} (steady : Run.Steady engine.program.id invariant)
    (each : ∀ row, Agree invariant (inner row) (other row))
    (ensures : ∀ row, Ensures invariant (fun _ => True) (other row))
    (function : AggregateFunction) (scope : Scope) (key : AggregateKey) (row? : Option RowId) :
    Agree invariant (evaluate engine function inner scope key row?)
      (evaluate engine function other scope key row?) := by
  intro run kept
  rw [run_evaluate, run_evaluate]
  cases binds : run.bindTo engine.program.id with
  | error error => rfl
  | ok bound =>
      rcases Run.alike_bindTo binds with ⟨boundAlike, boundProgram⟩
      have boundKept := steady boundAlike (.inr boundProgram) kept
      dsimp only
      cases bound.data.extent? scope row? with
      | none => rfl
      | some extent =>
          have searchedKept := steady (bound.alike_searched engine key)
            (.inl (bound.program?_searched engine key)) boundKept
          dsimp only
          rw [agree_reduce each ensures function extent.rows _ searchedKept]

end Aggregate

end GroupedReport
