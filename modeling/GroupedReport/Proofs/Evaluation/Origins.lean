import GroupedReport.Proofs.Evaluation.Kinds
import GroupedReport.Proofs.Evaluation.Visits
import GroupedReport.Proofs.Value.Order

/-!
# Where errors come from

An error of an evaluation is one of its own last step, or one of a visit that it comes to. A
reduction of values of one kind has no errors of its own.
-/

namespace GroupedReport

open Expression

/-! ## The row that a loop fails in -/

namespace Evaluate

/-- A loop fails with the error of a step, which begins in the state and the run that the steps
before it left. -/
theorem run_foldlM_eq_error_iff {step : β → RowId → Evaluate β} {rows : List RowId} {state : β}
    {run : Run} {error : EvaluationError} :
    ((rows.foldlM step state).run run).1 = .error error ↔
      ∃ earlier row later next between, rows = earlier ++ row :: later ∧
        (earlier.foldlM step state).run run = (.ok next, between) ∧
        ((step next row).run between).1 = .error error := by
  induction rows generalizing state run with
  | nil =>
      refine iff_of_false nofun ?_
      rintro ⟨earlier, row, later, _, _, equal, _⟩
      cases earlier <;> cases equal
  | cons first rest induction =>
      rw [List.foldlM_cons, run_bind]
      rcases stepped : (step state first).run run with ⟨firstError | second, afterFirst⟩
      · refine ⟨fun fails => ⟨[], first, rest, state, run, rfl, rfl, ?_⟩, ?_⟩
        · rw [stepped]
          exact fails
        · rintro ⟨earlier, row, later, next, between, equal, ran, fails⟩
          cases earlier with
          | nil =>
              cases equal
              cases ran
              rw [stepped] at fails
              exact fails
          | cons head tail =>
              cases equal
              rw [List.foldlM_cons, run_bind, stepped] at ran
              cases ran
      · refine Iff.trans induction ⟨?_, ?_⟩
        · rintro ⟨earlier, row, later, next, between, rfl, ran, fails⟩
          refine ⟨first :: earlier, row, later, next, between, rfl, ?_, fails⟩
          rw [List.foldlM_cons, run_bind, stepped]
          exact ran
        · rintro ⟨earlier, row, later, next, between, equal, ran, fails⟩
          cases earlier with
          | nil =>
              cases equal
              cases ran
              rw [stepped] at fails
              cases fails
          | cons head tail =>
              cases equal
              rw [List.foldlM_cons, run_bind, stepped] at ran
              exact ⟨tail, row, later, next, between, rfl, ran, fails⟩

end Evaluate

namespace Aggregate

open Evaluate

def GreatestPresent (kind : Kind) (greatest : Option Value) : Prop :=
  ∀ value, greatest = some value → value.Fits kind ∧ value.isAbsent = false

theorem greater_ok {kind : Kind} (transparent : kind ≠ .object) {greatest : Option Value}
    {item : Value} (present : GreatestPresent kind greatest) (fits : item.Fits kind) :
    ∃ next, greater greatest item = .ok next ∧ GreatestPresent kind next := by
  unfold greater
  split
  · exact ⟨greatest, rfl, present⟩
  · rename_i itemPresent
    have itemAlone : GreatestPresent kind (some item) := by
      rintro _ ⟨⟩
      exact ⟨fits, Bool.not_eq_true _ ▸ itemPresent⟩
    split
    · exact ⟨some item, rfl, itemAlone⟩
    · rename_i current
      split
      · exact ⟨some item, rfl, itemAlone⟩
      · exact ⟨some current, rfl, present⟩
      · rename_i unordered
        rcases present current rfl with ⟨currentFits, currentPresent⟩
        rcases Value.exists_compare? transparent (currentFits.isData transparent currentPresent)
          (fits.isData transparent (Bool.not_eq_true _ ▸ itemPresent)) with ⟨order, compared, _⟩
        rw [unordered] at compared
        cases compared

theorem take_ok {kind : Kind} (transparent : kind ≠ .object) (function : AggregateFunction) :
    ∃ sound : function.reduction.State → Prop, sound function.reduction.start ∧
      ∀ state item, sound state → item.Fits kind →
        ∃ next, function.reduction.take state item = .ok next ∧ sound next := by
  cases function with
  | max =>
      refine ⟨GreatestPresent kind, ?_, fun greatest item => greater_ok transparent⟩
      intro value equal
      cases equal
  | stdevp => exact ⟨fun _ => True, trivial, fun moments item _ _ => ⟨_, rfl, trivial⟩⟩

variable {function : AggregateFunction} {inner : RowId → Evaluate Value} {run between : Run}
  {error : EvaluationError}

theorem reduce_eq_error {earlier : List RowId} {row : RowId} {value : Value}
    (ran : (reduce function inner earlier).run run = (.ok value, between)) (later : List RowId)
    (fails : ((inner row).run between).1 = .error error) :
    ((reduce function inner (earlier ++ row :: later)).run run).1 = .error error := by
  have stepFails (state : function.reduction.State) :
      ((takeRow function inner state row).run between).1 = .error error := by
    rw [takeRow, run_bind]
    rcases given : (inner row).run between with ⟨_ | item, after⟩ <;> rw [given] at fails <;>
      cases fails
    rfl
  rw [run_reduce] at ran ⊢
  rcases looped : (earlier.foldlM (takeRow function inner) function.reduction.start).run run
    with ⟨_ | state, after⟩ <;> rw [looped] at ran <;> cases ran
  have failed := run_foldlM_eq_error_iff.mpr
    ⟨earlier, row, later, state, after, rfl, looped, stepFails state⟩
  dsimp only
  rw [failed]
  rfl

theorem reduce_fails_in_row {invariant : Run → Prop} {kind : Kind}
    (transparent : kind ≠ .object)
    (each : ∀ row, (inner row).Ensures invariant (OfValues (Value.Fits · kind)))
    {rows : List RowId} (kept : invariant run)
    (fails : ((reduce function inner rows).run run).1 = .error error) :
    ∃ earlier row later value between, rows = earlier ++ row :: later ∧
      (reduce function inner earlier).run run = (.ok value, between) ∧
      ((inner row).run between).1 = .error error := by
  rcases take_ok transparent function with ⟨sound, start, taken⟩
  have takes (state : function.reduction.State) (item : Value) (next : function.reduction.State)
      (stateSound : sound state) (itemFits : item.Fits kind)
      (given : function.reduction.take state item = .ok next) : sound next := by
    rcases taken state item stateSound itemFits with ⟨other, same, otherSound⟩
    cases given.symm.trans same
    exact otherSound
  rw [run_reduce] at fails
  rcases run_foldlM_eq_error_iff.mp (Result.map_eq_error fails) with
    ⟨earlier, row, later, state, between, equal, ran, failed⟩
  refine ⟨earlier, row, later, function.reduction.finish state, between, equal, ?_, ?_⟩
  · rw [run_reduce, ran]
    rfl
  · rcases ensures_takeRows each takes earlier start run kept with ⟨stateSound, betweenKept⟩
    rw [ran] at stateSound betweenKept
    have itemFits := (each row between betweenKept).1
    rw [takeRow, run_bind] at failed
    rcases given : (inner row).run between with ⟨_ | item, after⟩ <;>
      rw [given] at failed itemFits <;> dsimp only at failed
    · exact congrArg Except.error (Except.error.inj failed)
    · rcases taken state item (stateSound state rfl) (itemFits item rfl) with ⟨next, same, _⟩
      rw [same] at failed
      cases failed

end Aggregate

/-! ## The step that an evaluation fails in -/

namespace Engine

variable {engine : Engine} {id : NodeId} {row? : Option RowId} {run : Run}
  {error : EvaluationError}

theorem unary_eq_error_iff {operator : UnaryOperator} {operand : Tree} :
    ((engine.evaluateTree (.unary id operator operand) row?).run run).1 = .error error ↔
      ((engine.evaluateTree operand row?).run run).1 = .error error ∨
        ∃ value, ((engine.evaluateTree operand row?).run run).1 = .ok value ∧
          (Operator.unary operator value).mapError .ofOperator = .error error := by
  rw [run_unary]
  exact Result.bind_eq_error_iff

theorem binary_eq_error_iff {operator : BinaryOperator} {left right : Tree} :
    ((engine.evaluateTree (.binary id operator left right) row?).run run).1 = .error error ↔
      ((engine.evaluateTree left row?).run run).1 = .error error ∨
        ∃ leftValue between,
          (engine.evaluateTree left row?).run run = (.ok leftValue, between) ∧
            (((engine.evaluateTree right row?).run between).1 = .error error ∨
              ∃ rightValue, ((engine.evaluateTree right row?).run between).1 = .ok rightValue ∧
                (Operator.binary operator leftValue rightValue).mapError .ofOperator =
                  .error error) := by
  rw [run_binary]
  rcases (engine.evaluateTree left row?).run run with ⟨_ | leftValue, between⟩
  · exact ⟨.inl, fun fails => fails.resolve_right fun ⟨_, _, impossible, _⟩ => nomatch impossible⟩
  · refine Iff.trans Result.bind_eq_error_iff
      ⟨fun fails => .inr ⟨leftValue, between, rfl, fails⟩, ?_⟩
    rintro (impossible | ⟨_, _, ⟨⟩, fails⟩)
    · cases impossible
    · exact fails

theorem aggregate_eq_error_iff {function : AggregateFunction} {inner : Tree} {scope : Scope}
    {key : AggregateKey} {kind : Kind} :
    ((engine.evaluateTree (.aggregate id function inner scope key kind) row?).run run).1 =
        .error error ↔
      run.bindTo engine.program.id = .error error ∨
        ∃ bound extent, run.bindTo engine.program.id = .ok bound ∧
          bound.data.extent? scope row? = some extent ∧ engine.kept? bound key = none ∧
            ((Aggregate.reduce function (fun row => engine.evaluateTree inner (some row))
              extent.rows).run (engine.searched bound key)).1 = .error error := by
  rw [evaluateTree]
  constructor
  · intro fails
    rw [Aggregate.run_evaluate] at fails
    cases binds : run.bindTo engine.program.id with
    | error first =>
        rw [binds] at fails
        exact .inl (congrArg Except.error (Except.error.inj fails))
    | ok bound =>
        rw [binds] at fails
        dsimp only at fails
        cases covers : bound.data.extent? scope row? with
        | none =>
            rw [covers] at fails
            cases fails
        | some extent =>
            rw [covers] at fails
            dsimp only at fails
            cases missing : engine.kept? bound key with
            | some value =>
                rw [missing] at fails
                cases fails
            | none =>
                rw [missing] at fails
                dsimp only at fails
                rw [result_settle] at fails
                exact .inr ⟨bound, extent, rfl, covers, missing, fails⟩
  · rintro (foreign | ⟨bound, extent, binds, covers, missing, fails⟩)
    · rw [Aggregate.run_evaluate, foreign]
    · rw [Aggregate.result_evaluate binds covers missing]
      exact fails

theorem Visits.eq_error {first last : Visit} (visits : engine.Visits first last)
    (fails : (last.outcome engine).1 = .error error) :
    (first.outcome engine).1 = .error error := by
  induction visits with
  | self => exact fails
  | operand _ induction => exact unary_eq_error_iff.mpr (.inl (induction fails))
  | left _ induction => exact binary_eq_error_iff.mpr (.inl (induction fails))
  | right given _ induction =>
      exact binary_eq_error_iff.mpr (.inr ⟨_, _, given, .inl (induction fails)⟩)
  | inner binds covers missing equal ran _ induction =>
      refine aggregate_eq_error_iff.mpr (.inr ⟨_, _, binds, covers, missing, ?_⟩)
      rw [equal]
      exact Aggregate.reduce_eq_error ran _ (induction fails)

end Engine

end GroupedReport
