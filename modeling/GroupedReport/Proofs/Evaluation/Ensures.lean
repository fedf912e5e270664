import GroupedReport.Proofs.Evaluation.Outcome
import GroupedReport.Proofs.Evaluation.Cache

/-!
# Invariants of evaluation

An action ensures an outcome under an invariant of runs if it has that outcome in every run with
the invariant, and leaves a run that has the invariant again, even where it fails. Evaluation is
made of few steps, and what each of them ensures is said here.
-/

namespace GroupedReport

open Expression

namespace Evaluate

/-- Whether an action keeps an invariant and has an outcome of some form. -/
def Ensures (invariant : Run → Prop) (outcome : Except EvaluationError α → Prop)
    (action : Evaluate α) : Prop :=
  ∀ run, invariant run → outcome (action.run run).1 ∧ invariant (action.run run).2

variable {invariant : Run → Prop}

theorem ensures_pure {outcome : Except EvaluationError α → Prop} {value : α}
    (holds : outcome (.ok value)) : Ensures invariant outcome (pure value) :=
  fun _ kept => ⟨holds, kept⟩

theorem ensures_throw {outcome : Except EvaluationError α → Prop} {error : EvaluationError}
    (holds : outcome (.error error)) : Ensures invariant outcome (throw error) :=
  fun _ kept => ⟨holds, kept⟩

/-- One action after the other. An error of the first one is the outcome of both. -/
theorem Ensures.bind {outcome : Except EvaluationError α → Prop}
    {final : Except EvaluationError β → Prop} {action : Evaluate α} {next : α → Evaluate β}
    (first : Ensures invariant outcome action)
    (failed : ∀ error, outcome (.error error) → final (.error error))
    (second : ∀ value, outcome (.ok value) → Ensures invariant final (next value)) :
    Ensures invariant final (action >>= next) := by
  intro run kept
  rcases first run kept with ⟨holds, still⟩
  rw [run_bind]
  rcases equal : action.run run with ⟨result, after⟩
  rw [equal] at holds still
  cases result with
  | ok value => exact second value holds after still
  | error error => exact ⟨failed error holds, still⟩

theorem Ensures.weaken {outcome weaker : Except EvaluationError α → Prop} {action : Evaluate α}
    (ensures : Ensures invariant outcome action)
    (implies : ∀ result, outcome result → weaker result) :
    Ensures invariant weaker action :=
  fun run kept => ⟨implies _ (ensures run kept).1, (ensures run kept).2⟩

theorem ensures_operator {outcome : Except EvaluationError Value → Prop}
    {result : Except OperatorError Value} (holds : outcome (result.mapError .ofOperator)) :
    Ensures invariant outcome (operator result) := by
  intro run kept
  rw [run_operator]
  exact ⟨holds, kept⟩

theorem ensures_conversion {outcome : Except EvaluationError α → Prop}
    {result : Except CoercionError α} (holds : outcome (result.mapError .conversion)) :
    Ensures invariant outcome (conversion result) := by
  intro run kept
  rw [run_conversion]
  exact ⟨holds, kept⟩

theorem ensures_ofResult {outcome : Except EvaluationError α → Prop}
    {result : Except EvaluationError α} (holds : outcome result) :
    Ensures invariant outcome (ofResult result) := by
  intro run kept
  rw [run_ofResult]
  exact ⟨holds, kept⟩

/-! ## Loops over rows -/

def OfValues (holds : α → Prop) (result : Except EvaluationError α) : Prop :=
  ∀ value, result = .ok value → holds value

theorem ofValues_ok {holds : α → Prop} {value : α} (holdsValue : holds value) :
    OfValues holds (.ok value) := by
  intro other equal
  cases equal
  exact holdsValue

theorem ofValues_error {holds : α → Prop} {error : EvaluationError} :
    OfValues holds (.error error) := by
  intro other equal
  cases equal

theorem Ensures.bind_values {holds : α → Prop} {final : β → Prop} {action : Evaluate α}
    {next : α → Evaluate β} (first : Ensures invariant (OfValues holds) action)
    (second : ∀ value, holds value → Ensures invariant (OfValues final) (next value)) :
    Ensures invariant (OfValues final) (action >>= next) :=
  first.bind (fun _ _ => ofValues_error) fun value given => second value (given value rfl)

theorem ensures_foldlM {holds : β → Prop} {step : β → RowId → Evaluate β}
    (each : ∀ state row, holds state → Ensures invariant (OfValues holds) (step state row))
    (rows : List RowId) {state : β} (start : holds state) :
    Ensures invariant (OfValues holds) (rows.foldlM step state) := by
  induction rows generalizing state with
  | nil => exact ensures_pure (ofValues_ok start)
  | cons row rest induction =>
      rw [List.foldlM_cons]
      exact (each state row start).bind_values fun next holds => induction holds

theorem ensures_mapM {holds : Value → Prop} {inner : RowId → Evaluate Value}
    (each : ∀ row, (inner row).Ensures invariant (OfValues holds)) (rows : List RowId) :
    (rows.mapM inner).Ensures invariant (OfValues fun items => ∀ item ∈ items, holds item) := by
  induction rows with
  | nil => exact ensures_pure (ofValues_ok (List.forall_mem_nil _))
  | cons row rest induction =>
      rw [List.mapM_cons]
      apply (each row).bind_values
      intro item itemHolds
      apply induction.bind_values
      intro items itemsHold
      exact ensures_pure (ofValues_ok (List.forall_mem_cons.mpr ⟨itemHolds, itemsHold⟩))

theorem ensures_takeRows {function : AggregateFunction} {inner : RowId → Evaluate Value}
    {holds : Value → Prop} {sound : function.reduction.State → Prop}
    (each : ∀ row, (inner row).Ensures invariant (OfValues holds))
    (takes : ∀ state item next, sound state → holds item →
      function.reduction.take state item = .ok next → sound next)
    (rows : List RowId) {state : function.reduction.State} (start : sound state) :
    (rows.foldlM (Aggregate.takeRow function inner) state).Ensures invariant (OfValues sound) := by
  refine ensures_foldlM ?_ rows start
  intro state row stateSound
  apply (each row).bind_values
  intro item itemHolds
  exact ensures_ofResult fun next taken => takes state item next stateSound itemHolds taken

theorem ensures_reduce_of (function : AggregateFunction) {inner : RowId → Evaluate Value}
    {holds final : Value → Prop} (sound : function.reduction.State → Prop)
    (each : ∀ row, (inner row).Ensures invariant (OfValues holds))
    (start : sound function.reduction.start)
    (takes : ∀ state item next, sound state → holds item →
      function.reduction.take state item = .ok next → sound next)
    (finishes : ∀ state, sound state → final (function.reduction.finish state))
    (rows : List RowId) :
    (Aggregate.reduce function inner rows).Ensures invariant (OfValues final) := by
  rw [Aggregate.reduce_eq]
  apply (ensures_takeRows each takes rows start).bind_values
  intro state stateSound
  exact ensures_pure (ofValues_ok (finishes state stateSound))

theorem ensures_foldlM_eq {step : β → RowId → Evaluate β}
    {expected : β → RowId → Except EvaluationError β} {rows : List RowId}
    (each : ∀ state, ∀ row ∈ rows, Ensures invariant (· = expected state row) (step state row))
    (state : β) :
    Ensures invariant (· = rows.foldlM expected state) (rows.foldlM step state) := by
  induction rows generalizing state with
  | nil => exact ensures_pure rfl
  | cons row rest induction =>
      rw [List.foldlM_cons, List.foldlM_cons]
      refine (each state row List.mem_cons_self).bind ?_ ?_
      · intro error equal
        rw [← equal]
        rfl
      · intro next equal
        rw [← equal]
        exact induction
          (fun state row member => each state row (List.mem_cons_of_mem _ member)) next

end Evaluate

/-! ## Steps of evaluation -/

/-- Whether two runs differ in nothing but counts of what was read and looked for, and in a
program where there was none. -/
structure Run.Alike (before after : Run) : Prop where
  data : after.data = before.data
  entries : after.cache.entries = before.cache.entries
  stores : after.cache.stats.stores = before.cache.stats.stores
  program {program : ProgramId} :
    before.program? = some program → after.program? = some program

namespace Run.Alike

theorem refl (run : Run) : run.Alike run :=
  ⟨rfl, rfl, rfl, id⟩

theorem trans {before between after : Run} (left : before.Alike between)
    (right : between.Alike after) : before.Alike after where
  data := right.data.trans left.data
  entries := right.entries.trans left.entries
  stores := right.stores.trans left.stores
  program bound := right.program (left.program bound)

theorem peek?_eq {before after : Run} (alike : before.Alike after) (slot : Slot) :
    after.cache.peek? slot = before.cache.peek? slot := by
  rw [Cache.peek?, Cache.peek?, alike.entries]

end Run.Alike

/-- Whether an invariant says nothing about counts of what was read and looked for, and allows
that a run is bound to a program. -/
def Run.Steady (program : ProgramId) (invariant : Run → Prop) : Prop :=
  ∀ {before after : Run}, before.Alike after →
    (after.program? = before.program? ∨ after.program? = some program) →
      invariant before → invariant after

theorem Run.alike_bindTo {run bound : Run} {program : ProgramId}
    (binds : run.bindTo program = .ok bound) :
    run.Alike bound ∧ bound.program? = some program := by
  rw [bindTo] at binds
  split at binds
  · rename_i unbound
    cases binds
    refine ⟨⟨rfl, rfl, rfl, ?_⟩, rfl⟩
    intro other equal
    rw [unbound] at equal
    cases equal
  · rename_i other equal
    split at binds
    · rename_i same
      cases binds
      rw [same] at equal
      exact ⟨.refl run, equal⟩
    · cases binds

/-- Whether a run is over some data, and free for a program. -/
structure Run.Over (data : DataSource) (program : ProgramId) (run : Run) : Prop where
  data : run.data = data
  program : run.program? = none ∨ run.program? = some program

namespace Run.Over

variable {data : DataSource} {program : ProgramId}

theorem start (data : DataSource) (program : ProgramId) : (Run.start data).Over data program :=
  ⟨rfl, .inl rfl⟩

theorem steady : Run.Steady program (Run.Over data program) := by
  intro before after alike bound free
  refine ⟨alike.data.trans free.data, ?_⟩
  rcases bound with same | now
  · rw [same]
    exact free.program
  · exact .inr now

theorem bindTo_ok {run : Run} (free : run.Over data program) :
    ∃ bound, run.bindTo program = .ok bound := by
  rw [bindTo]
  rcases free.program with unbound | bound
  · rw [unbound]
    exact ⟨_, rfl⟩
  · rw [bound]
    exact ⟨run, if_pos rfl⟩

theorem cross {run : Run} (free : run.Over data program) (boundary : Boundary) :
    (run.cross boundary).Over data program where
  data := (run.data_cross boundary).trans free.data
  program := by
    rw [run.program?_cross boundary]
    exact free.program

end Run.Over

theorem Run.alike_searched (run : Run) (engine : Engine) (key : AggregateKey) :
    run.Alike (engine.searched run key) := by
  rw [Engine.searched]
  split
  · exact ⟨rfl, Cache.entries_get? .., Cache.stores_get? .., id⟩
  · exact .refl run

theorem Run.program?_searched (run : Run) (engine : Engine) (key : AggregateKey) :
    (engine.searched run key).program? = run.program? := by
  rw [Engine.searched]
  split <;> rfl

theorem Run.Steady.searched {engine : Engine} {invariant : Run → Prop}
    (steady : Run.Steady engine.program.id invariant) {run bound : Run}
    (binds : run.bindTo engine.program.id = .ok bound) (key : AggregateKey) (kept : invariant run) :
    invariant (engine.searched bound key) := by
  rcases Run.alike_bindTo binds with ⟨boundAlike, boundProgram⟩
  exact steady (boundAlike.trans (bound.alike_searched engine key))
    (.inr ((bound.program?_searched engine key).trans boundProgram)) kept

theorem Engine.of_kept? {engine : Engine} {run : Run} {key : AggregateKey} {value : Value}
    (kept : engine.kept? run key = some value) :
    engine.options.cacheAggregates = true ∧ run.cache.peek? (.aggregate key) = some value := by
  rw [kept?] at kept
  split at kept
  · exact ⟨‹_›, kept⟩
  · cases kept

namespace Evaluate

variable {invariant : Run → Prop}

theorem ensures_read {program : ProgramId} (steady : Run.Steady program invariant)
    {outcome : Except EvaluationError Value → Prop} {row : RowId} {column : Nat}
    (holds : ∀ run, invariant run → outcome (run.data.value row column)) :
    Ensures invariant outcome (read row column) := by
  intro run kept
  rw [run_read]
  have alike : run.Alike { run with reads := run.reads + 1 } := ⟨rfl, rfl, rfl, id⟩
  exact ⟨holds run kept, steady alike (.inl rfl) kept⟩

/-- What an aggregate ensures: where its scope has no extent, where its value was kept, and where
its rows are reduced. Values are found and stored only if the engine keeps them. -/
theorem ensures_aggregate {engine : Engine}
    (steady : Run.Steady engine.program.id invariant)
    {outcome : Except EvaluationError Value → Prop} {function : AggregateFunction}
    {inner : RowId → Evaluate Value} {scope : Scope} {key : AggregateKey} {row? : Option RowId}
    (foreign : ∀ run error, invariant run →
      run.bindTo engine.program.id = .error error → outcome (.error error))
    (missing : ∀ run, invariant run → run.data.extent? scope row? = none →
      outcome (.ok (Aggregate.noData function)))
    (found : ∀ run extent value, engine.options.cacheAggregates = true → invariant run →
      run.data.extent? scope row? = some extent →
        run.cache.peek? (.aggregate key) = some value → outcome (.ok value))
    (reduced : ∀ run extent, invariant run → run.data.extent? scope row? = some extent →
      Ensures invariant outcome (Aggregate.reduce function inner extent.rows))
    (stored : ∀ before after extent value, engine.options.cacheAggregates = true →
      invariant before → before.data.extent? scope row? = some extent →
        extent.cacheable = true → invariant after → outcome (.ok value) →
          invariant { after with cache := after.cache.store (.aggregate key) value }) :
    Ensures invariant outcome
      (Aggregate.evaluate engine function inner scope key row?) := by
  intro run kept
  rw [Aggregate.run_evaluate]
  cases binds : run.bindTo engine.program.id with
  | error error => exact ⟨foreign run error kept binds, kept⟩
  | ok bound =>
      rcases Run.alike_bindTo binds with ⟨boundAlike, boundProgram⟩
      have boundKept := steady boundAlike (.inr boundProgram) kept
      dsimp only
      cases covers : bound.data.extent? scope row? with
      | none => exact ⟨missing bound boundKept covers, boundKept⟩
      | some extent =>
          have searchedKept := steady.searched binds key kept
          dsimp only
          cases held : engine.kept? bound key with
          | some value =>
              rcases Engine.of_kept? held with ⟨caching, peeked⟩
              exact ⟨found bound extent value caching boundKept covers peeked, searchedKept⟩
          | none =>
              rcases reduced bound extent boundKept covers _ searchedKept with ⟨holds, still⟩
              dsimp only
              rcases equal : (Aggregate.reduce function inner extent.rows).run
                (engine.searched bound key) with ⟨_ | value, after⟩ <;> rw [equal] at holds still
              · exact ⟨holds, still⟩
              · rw [Engine.settle]
                refine ⟨holds, ?_⟩
                split
                · rename_i keeps
                  rcases Bool.and_eq_true_iff.mp keeps with ⟨caching, cacheable⟩
                  exact stored bound after extent value caching boundKept covers cacheable still
                    holds
                · exact still

end Evaluate

end GroupedReport
