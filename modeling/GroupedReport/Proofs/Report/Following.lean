import GroupedReport.Report.Run

/-!
# Steps that do what is expected

A step of a run follows an expected result if it fails with the error that is expected, or gives a
value that goes with the expected one and leaves a progress of which something holds. Steps that
follow their results one after the other follow the results one after the other.
-/

namespace GroupedReport

namespace Step

/-- Whether a step does what is expected wherever something holds of the progress. -/
def Follows (step : Step α) (before : Progress → Prop) (expected : Except EvaluationError β)
    (after : α → β → Progress → Prop) : Prop :=
  ∀ progress, before progress →
    match expected with
    | .error error => step progress = .error error
    | .ok value => ∃ given left, step progress = .ok (given, left) ∧ after given value left

/-- Whether a step gives what is expected, and something holds of the progress that it leaves. -/
def Gives (step : Step α) (before : Progress → Prop) (expected : Except EvaluationError α)
    (after : Progress → Prop) : Prop :=
  step.Follows before expected fun given value left => given = value ∧ after left

section

variable {before middle : Progress → Prop}

theorem run_bind (step : Step α) (next : α → Step β) (progress : Progress) :
    (step >>= next) progress =
      match step progress with
      | .ok (given, left) => next given left
      | .error error => .error error := by
  change (step progress >>= fun (given, left) => next given left) = _
  cases step progress <;> rfl

theorem run_evaluate (action : Evaluate α) (progress : Progress) :
    Step.evaluate action progress =
      match action.run progress.run with
      | (.ok value, run) => .ok (value, { progress with run })
      | (.error error, _) => .error error := rfl

theorem Follows.bind {step : Step α} {next : α → Step γ} {expected : Except EvaluationError β}
    {other : β → Except EvaluationError δ} {between : α → β → Progress → Prop}
    {after : γ → δ → Progress → Prop} (first : step.Follows before expected between)
    (second : ∀ given value, (next given).Follows (between given value) (other value) after) :
    (step >>= next).Follows before (expected >>= other) after := by
  intro progress holds
  have follows := first progress holds
  rw [run_bind]
  cases expected with
  | error error =>
      dsimp only at follows
      rw [follows]
      rfl
  | ok value =>
      rcases follows with ⟨given, left, equal, still⟩
      rw [equal]
      exact second given value left still

theorem follows_pure {given : α} {value : β} {after : α → β → Progress → Prop}
    (holds : ∀ progress, before progress → after given value progress) :
    Follows (pure given) before (.ok value) after :=
  fun progress start => ⟨given, progress, rfl, holds progress start⟩

theorem gives_pure (value : α) : Gives (pure value) before (.ok value) before :=
  follows_pure fun _ start => ⟨rfl, start⟩

theorem Gives.follows_bind {step : Step α} {next : α → Step γ}
    {expected : Except EvaluationError α} {other : α → Except EvaluationError δ}
    {after : γ → δ → Progress → Prop} (first : step.Gives before expected middle)
    (second : ∀ value, (next value).Follows middle (other value) after) :
    (step >>= next).Follows before (expected >>= other) after := by
  apply Follows.bind first
  rintro given value left ⟨rfl, holds⟩
  exact second given left holds

theorem Gives.bind {step : Step α} {next : α → Step β} {expected : Except EvaluationError α}
    {other : α → Except EvaluationError β} {after : Progress → Prop}
    (first : step.Gives before expected middle)
    (second : ∀ value, (next value).Gives middle (other value) after) :
    (step >>= next).Gives before (expected >>= other) after :=
  first.follows_bind second

theorem Gives.before_step {step : Step Unit} {next : Step α} {expected : Except EvaluationError β}
    {after : α → β → Progress → Prop} (first : step.Gives before (.ok ()) middle)
    (second : next.Follows middle expected after) :
    (do step; next).Follows before expected after := by
  intro progress holds
  rcases first progress holds with ⟨given, left, equal, _, still⟩
  rw [run_bind, equal]
  exact second left still

theorem Gives.weaken {step : Step α} {expected : Except EvaluationError α}
    {after : Progress → Prop} (gives : step.Gives before expected middle)
    (implies : ∀ progress, middle progress → after progress) :
    step.Gives before expected after := by
  intro progress holds
  have result := gives progress holds
  cases expected with
  | error error => exact result
  | ok value =>
      rcases result with ⟨given, left, equal, same, still⟩
      exact ⟨given, left, equal, same, implies left still⟩

end

end Step

theorem Report.runOver_of_groups {report : Report} {dataSet : DataSet}
    {groups : List (List RowId)} (found : report.groups dataSet = .ok groups) :
    report.runOver dataSet =
      match report.runGroups dataSet report.boundary 0 groups ⟨.start dataSet.source, none⟩ with
      | .error error => .error (.evaluation error)
      | .ok (outputs, progress) => .ok
          { name := report.name, groups := outputs, stats := progress.run.cache.stats } := by
  rw [runOver, found]
  rfl

end GroupedReport
