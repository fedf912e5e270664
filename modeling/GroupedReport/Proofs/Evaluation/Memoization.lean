import GroupedReport.Proofs.Evaluation.Growth
import GroupedReport.Proofs.Evaluation.Reached

/-!
# Memoized results

Once an evaluation has given a value, it gives the same value in every run that has grown since,
and adds nothing more. An aggregate whose value may not be kept is reduced again, over values that
are found or reduced again in turn.
-/

namespace GroupedReport

open Expression

namespace Evaluate

/-- Whether a value, once an action has given it, is given again by the action in every run that
has grown since, and nothing more is kept. -/
def Stable (may : AggregateKey → Prop) (action : Evaluate α) : Prop :=
  ∀ (run : Run) (value : α) (after : Run), run.data.SharesByScope →
    action.run run = (.ok value, after) →
      ∀ later, after.Grows may later →
        ∃ final, action.run later = (.ok value, final) ∧ later.Alike final

variable {may : AggregateKey → Prop}

theorem stable_pure (value : α) : Stable may (pure value) := by
  intro run given after _ equal later _
  cases equal
  exact ⟨later, rfl, Run.Alike.refl later⟩

theorem stable_throw (error : EvaluationError) : Stable may (throw error : Evaluate α) := by
  intro run given after _ equal
  cases equal

theorem stable_operator (result : Except OperatorError Value) : Stable may (operator result) := by
  cases result with
  | ok value => exact stable_pure value
  | error error => exact stable_throw _

theorem stable_conversion (result : Except CoercionError α) :
    Stable may (conversion result) := by
  cases result with
  | ok value => exact stable_pure value
  | error error => exact stable_throw _

theorem stable_ofResult (result : Except EvaluationError α) : Stable may (ofResult result) := by
  cases result with
  | ok value => exact stable_pure value
  | error error => exact stable_throw error

theorem stable_read (row : RowId) (column : Nat) : Stable may (read row column) := by
  intro run value after _ equal later grows
  rw [run_read] at equal
  rcases Prod.mk.inj equal with ⟨given, rfl⟩
  refine ⟨{ later with reads := later.reads + 1 }, ?_, ⟨rfl, rfl, rfl, id⟩⟩
  rw [run_read, grows.data]
  exact Prod.ext given rfl

/-- The second action was left in a run that the first one's has grown to. -/
theorem Stable.bind {action : Evaluate α} {next : α → Evaluate β} (first : Stable may action)
    (firstGrows : GrowsBy may action) (second : ∀ value, Stable may (next value))
    (secondGrows : ∀ value, GrowsBy may (next value)) : Stable may (action >>= next) := by
  intro run result after shares equal later grows
  rw [run_bind] at equal
  rcases firstEqual : action.run run with ⟨_ | value, between⟩
  · rw [firstEqual] at equal
    cases equal
  · rw [firstEqual] at equal
    dsimp only at equal
    have toBetween := firstGrows run shares
    rw [firstEqual] at toBetween
    have betweenShares : between.data.SharesByScope := toBetween.data ▸ shares
    have toAfter := secondGrows value between betweenShares
    rw [equal] at toAfter
    rcases first run value between shares firstEqual later (toAfter.trans grows) with
      ⟨laterBetween, again, alike⟩
    rcases second value between result after betweenShares equal laterBetween
        (grows.trans (.of_alike alike)) with ⟨final, secondAgain, secondAlike⟩
    refine ⟨final, ?_, alike.trans secondAlike⟩
    rw [run_bind, again]
    exact secondAgain

theorem stable_foldlM {step : β → RowId → Evaluate β}
    (each : ∀ state row, Stable may (step state row))
    (grows : ∀ state row, GrowsBy may (step state row)) (rows : List RowId) (state : β) :
    Stable may (rows.foldlM step state) := by
  induction rows generalizing state with
  | nil => exact stable_pure state
  | cons row rest induction =>
      rw [List.foldlM_cons]
      exact (each state row).bind (grows state row) induction
        fun next => growsBy_foldlM grows rest next

end Evaluate

namespace Aggregate

open Evaluate

variable {may : AggregateKey → Prop} {inner : RowId → Evaluate Value}

theorem stable_reduce (each : ∀ row, Stable may (inner row))
    (grows : ∀ row, GrowsBy may (inner row)) (function : AggregateFunction)
    (rows : List RowId) : Stable may (reduce function inner rows) := by
  have stepGrows (state : function.reduction.State) (row : RowId) :
      GrowsBy may (takeRow function inner state row) :=
    (grows row).bind fun item => growsBy_ofResult _
  rw [reduce_eq]
  refine (stable_foldlM ?_ stepGrows rows function.reduction.start).bind
    (growsBy_foldlM stepGrows rows function.reduction.start) (fun state => stable_pure _)
      fun state => growsBy_pure _
  intro state row
  exact (each row).bind (grows row) (fun item => stable_ofResult _) fun item => growsBy_ofResult _

section

variable {engine : Engine} {bound later : Run} {function : AggregateFunction} {scope : Scope}
  {key : AggregateKey} {row? : Option RowId}

theorem run_evaluate_later (boundProgram : bound.program? = some engine.program.id)
    (grows : bound.Grows may later) :
    (evaluate engine function inner scope key row?).run later =
      match bound.data.extent? scope row? with
      | none => (.ok (noData function), later)
      | some extent =>
          match engine.kept? later key with
          | some value => (.ok value, engine.searched later key)
          | none =>
              engine.settle extent key
                ((reduce function inner extent.rows).run (engine.searched later key)) := by
  have binds : later.bindTo engine.program.id = .ok later := by
    rw [Run.bindTo, grows.program boundProgram]
    exact if_pos rfl
  have outcome := run_evaluate engine function inner scope key row? later
  rw [binds] at outcome
  dsimp only at outcome
  rw [grows.data] at outcome
  exact outcome

theorem evaluate_of_kept (caching : engine.options.cacheAggregates = true)
    (boundProgram : bound.program? = some engine.program.id) (grows : bound.Grows may later)
    {extent : Extent} (covers : bound.data.extent? scope row? = some extent) {value : Value}
    (held : later.cache.peek? (.aggregate key) = some value) :
    ∃ final, (evaluate engine function inner scope key row?).run later = (.ok value, final) ∧
      later.Alike final := by
  refine ⟨engine.searched later key, ?_, later.alike_searched engine key⟩
  rw [run_evaluate_later boundProgram grows, covers]
  dsimp only
  rw [Engine.kept?, if_pos caching, held]

theorem evaluate_of_not_cacheable (caching : engine.options.cacheAggregates = true)
    (boundProgram : bound.program? = some engine.program.id) (grows : bound.Grows may later)
    {extent : Extent} (covers : bound.data.extent? scope row? = some extent)
    (notCacheable : extent.cacheable = false)
    (free : later.cache.peek? (.aggregate key) = none) {value : Value} {final : Run}
    (again : (reduce function inner extent.rows).run (engine.searched later key) =
      (.ok value, final)) :
    (evaluate engine function inner scope key row?).run later = (.ok value, final) := by
  rw [run_evaluate_later boundProgram grows, covers]
  dsimp only
  rw [Engine.kept?, if_pos caching, free]
  dsimp only
  rw [again, Engine.settle, notCacheable, Bool.and_false]
  rfl

theorem evaluate_of_reduced {inside : AggregateKey → Prop} (each : ∀ row, Stable may (inner row))
    (grows : ∀ row, GrowsBy inside (inner row)) (implies : ∀ key, inside key → may key)
    (own : ¬inside key) (shared : may key ↔ scope.isShared = true)
    (caching : engine.options.cacheAggregates = true)
    (boundProgram : bound.program? = some engine.program.id)
    (boundShares : bound.data.SharesByScope) {extent : Extent}
    (covers : bound.data.extent? scope row? = some extent)
    (free : bound.cache.peek? (.aggregate key) = none) {value : Value} {after : Run}
    (settled : engine.settle extent key
      ((reduce function inner extent.rows).run (engine.searched bound key)) = (.ok value, after))
    (toLater : after.Grows may later) :
    ∃ final, (evaluate engine function inner scope key row?).run later = (.ok value, final) ∧
      later.Alike final := by
  have searchedAlike := bound.alike_searched engine key
  have searchedShares : (engine.searched bound key).data.SharesByScope :=
    searchedAlike.data ▸ boundShares
  have toBetween := growsBy_reduce grows function extent.rows _ searchedShares
  rcases reduced : (reduce function inner extent.rows).run (engine.searched bound key)
    with ⟨_ | given, between⟩
  · rw [reduced] at settled
    cases settled
  · rw [reduced] at settled toBetween
    have fromBound := (Run.Grows.of_alike searchedAlike).trans (toBetween.mono implies)
    rw [Engine.settle, caching, Bool.true_and] at settled
    cases cacheable : extent.cacheable with
    | true =>
        rw [cacheable] at settled
        cases settled
        -- The slot was free before, so this run has grown, and the value is still found in it.
        have permitted := shared.mpr ((boundShares covers).symm.trans cacheable)
        have stillFree := toBetween.absent own ((searchedAlike.peek?_eq _).trans free)
        exact evaluate_of_kept caching boundProgram
          ((fromBound.trans (.store permitted stillFree)).trans toLater) covers
          (toLater.keeps (Cache.peek?_store between.cache _ value))
    | false =>
        rw [cacheable] at settled
        cases settled
        -- Nothing is ever kept under this key, so the slot is free and the rows are gone through.
        have notShared : ¬may key := by
          rw [shared, ← boundShares covers, cacheable]
          decide
        have laterAlike := later.alike_searched engine key
        rcases stable_reduce each (fun row => (grows row).mono implies) function extent.rows _ value
          between searchedShares reduced (engine.searched later key)
          (toLater.trans (.of_alike laterAlike)) with ⟨final, again, alike⟩
        refine ⟨final, ?_, laterAlike.trans alike⟩
        exact evaluate_of_not_cacheable caching boundProgram (fromBound.trans toLater) covers
          cacheable ((fromBound.trans toLater).absent notShared free) again

end

theorem stable_evaluate {inside : AggregateKey → Prop} (each : ∀ row, Stable may (inner row))
    (grows : ∀ row, GrowsBy inside (inner row)) (implies : ∀ key, inside key → may key)
    {key : AggregateKey} {scope : Scope} (own : ¬inside key)
    (shared : may key ↔ scope.isShared = true) {engine : Engine}
    (caching : engine.options.cacheAggregates = true) (function : AggregateFunction)
    (row? : Option RowId) : Stable may (evaluate engine function inner scope key row?) := by
  intro run value after shares equal later toLater
  rw [run_evaluate] at equal
  cases binds : run.bindTo engine.program.id with
  | error error =>
      rw [binds] at equal
      cases equal
  | ok bound =>
      rw [binds] at equal
      dsimp only at equal
      rcases Run.alike_bindTo binds with ⟨boundAlike, boundProgram⟩
      cases covers : bound.data.extent? scope row? with
      | none =>
          rw [covers] at equal
          cases equal
          refine ⟨later, ?_, .refl later⟩
          rw [run_evaluate_later boundProgram toLater, covers]
      | some extent =>
          rw [covers] at equal
          dsimp only at equal
          cases held : engine.kept? bound key with
          | some kept =>
              rw [held] at equal
              cases equal
              have fromBound :=
                (Run.Grows.of_alike (bound.alike_searched engine key)).trans toLater
              exact evaluate_of_kept caching boundProgram fromBound covers
                (fromBound.keeps (Engine.of_kept? held).2)
          | none =>
              rw [held] at equal
              rw [Engine.kept?, if_pos caching] at held
              exact evaluate_of_reduced each grows implies own shared caching boundProgram
                (boundAlike.data ▸ shares) covers held equal toLater

end Aggregate

namespace Expression.Builder

open Evaluate

theorem Valid.mayKeep_iff {builder : Builder} (valid : builder.Valid) {id inner : NodeId}
    {function : AggregateFunction} {scope : Scope} {key : AggregateKey} {kind : Kind}
    (found : builder.nodes[id]? = some (.aggregate function inner scope key kind)) :
    builder.MayKeep key ↔ scope.isShared = true := by
  constructor
  · rintro ⟨other, _, _, _, _, otherFound, shared⟩
    rcases valid.agree found otherFound with ⟨_, sameScope, _⟩
    rw [sameScope]
    exact shared
  · intro shared
    exact ⟨id, function, inner, scope, kind, found, shared⟩

theorem Valid.stable_evaluateTree {builder : Builder} (valid : builder.Valid) {engine : Engine}
    (caching : engine.options.cacheAggregates = true) (id : NodeId) (row? : Option RowId) :
    (engine.evaluateTree (builder.tree id) row?).Stable builder.MayKeep := by
  have grows (operand : NodeId) (row? : Option RowId) :
      (engine.evaluateTree (builder.tree operand) row?).GrowsBy builder.MayKeep :=
    (valid.growsBy_evaluateTree engine operand row?).mono fun _ within => within.2
  induction id using valid.node_induction generalizing row? with
  | unknown id absent =>
      rw [tree_of_absent absent]
      exact stable_throw _
  | literal id value kind found =>
      rw [valid.tree_eq found]
      exact stable_pure value
  | field id column kind found =>
      rw [valid.tree_eq found]
      cases row? with
      | none => exact stable_pure Value.null
      | some row =>
          exact (stable_read row column).bind (growsBy_read row column)
            (fun value => stable_conversion _) fun value => growsBy_conversion _
  | unary id operator operand found induction =>
      rw [valid.tree_eq found]
      exact (induction row?).bind (grows operand row?) (fun value => stable_operator _)
        fun value => growsBy_operator _
  | binary id operator left right found leftInduction rightInduction =>
      rw [valid.tree_eq found]
      apply (leftInduction row?).bind (grows left row?)
      · intro leftValue
        exact (rightInduction row?).bind (grows right row?)
          (fun rightValue => stable_operator _) fun rightValue => growsBy_operator _
      · intro leftValue
        exact (grows right row?).bind fun rightValue => growsBy_operator _
  | aggregate id function inner scope key kind found induction =>
      rcases valid.node found with ⟨_, _, _, inside⟩
      rw [valid.tree_eq found]
      apply Aggregate.stable_evaluate (fun row => induction (some row))
        (fun row => valid.growsBy_evaluateTree engine inner (some row))
        (fun _ within => within.2) _ (valid.mayKeep_iff found) caching function row?
      intro own
      exact Nat.lt_irrefl key (inside key own.1)

end Expression.Builder

/-! ## Sequences of evaluations -/

structure Request where
  kind : Kind
  id : NodeId
  row? : Option RowId

def Engine.respond (engine : Engine) (requests : List Request) (run : Run) : Run :=
  requests.foldl
    (fun run request => ((engine.evaluateAs request.kind request.id request.row?).run run).2) run

theorem Expression.Builder.Valid.grows_respond {builder : Builder} (valid : builder.Valid)
    (number : ProgramId) (options : Options) (requests : List Request) {run : Run}
    (shares : run.data.SharesByScope) :
    run.Grows builder.MayKeep ((builder.engine number options).respond requests run) := by
  induction requests generalizing run with
  | nil => exact .refl run
  | cons request rest induction =>
      have grows := (valid.growsBy_evaluateTree (builder.engine number options) request.id
        request.row? run shares).mono fun _ within => within.2
      change run.Grows _ (((builder.engine number options).native request.id request.row?).run
        run).2 at grows
      rw [← Engine.run_evaluateAs_snd _ request.kind] at grows
      have stillShares : (((builder.engine number options).evaluateAs request.kind request.id
          request.row?).run run).2.data.SharesByScope := grows.data ▸ shares
      exact grows.trans (induction stillShares)

/-- With caching on, evaluations of the nodes of a builder over a data set only ever store values
of aggregates, each under a slot that has none, and leave all that was kept as it is. A value that
was given once is given again after any evaluations, and nothing more is kept then. -/
theorem memoized_results_are_stable {builder : Builder} (built : builder.Built)
    (number : ProgramId) {options : Options} (caching : options.cacheAggregates = true)
    (dataSet : DataSet) {run : Run} (source : run.data = dataSet.source) :
    (∀ requests, ∃ added : List (Slot × Value),
      let after := (builder.engine number options).respond requests run
      after.cache.entries = added ++ run.cache.entries ∧
        after.cache.stats.stores = run.cache.stats.stores + added.length ∧
        (added.map Prod.fst).Nodup ∧
        (∀ entry ∈ added, run.cache.peek? entry.1 = none ∧ ∃ key, entry.1 = .aggregate key) ∧
        ∀ slot value, run.cache.peek? slot = some value → after.cache.peek? slot = some value) ∧
    (∀ id row? value between,
      ((builder.engine number options).native id row?).run run = (.ok value, between) →
        ∀ requests,
          let later := (builder.engine number options).respond requests between
          ∃ final, ((builder.engine number options).native id row?).run later =
              (.ok value, final) ∧
            final.cache.entries = later.cache.entries ∧
            final.cache.stats.stores = later.cache.stats.stores) := by
  have valid := built.valid
  have shares : run.data.SharesByScope := source ▸ dataSet.sharesByScope
  constructor
  · intro requests
    have grows := valid.grows_respond number options requests shares
    rcases grows.adds with ⟨added, adds⟩
    refine ⟨added, adds.entries, adds.stores, adds.distinct, ?_, fun _ _ => grows.keeps⟩
    intro entry member
    rcases adds.allowed entry member with ⟨key, equal, _⟩
    exact ⟨adds.absent entry member, key, equal⟩
  · intro id row? value between equal requests
    have toBetween := valid.growsBy_evaluateTree (builder.engine number options) id row? run shares
    change run.Grows _ (((builder.engine number options).native id row?).run run).2 at toBetween
    rw [equal] at toBetween
    have betweenShares : between.data.SharesByScope := toBetween.data ▸ shares
    rcases valid.stable_evaluateTree caching id row? run value between
      shares equal _ (valid.grows_respond number options requests betweenShares)
      with ⟨final, again, alike⟩
    exact ⟨final, again, alike.entries, alike.stores⟩

/-- The greatest number is found in the cache, whatever was evaluated since. -/
theorem greatest_number_is_found_again :
    Builder.greatest.Built ∧
      ((Builder.greatest.engine 0 {}).native 1 none).run (.start DataSet.seven.source) =
        (.ok (.int32 7), Run.afterSeven) ∧
      let later := (Builder.greatest.engine 0 {}).respond
        [⟨.float64, 0, some 0⟩, ⟨.string, 1, some 0⟩, ⟨.int32, 5, none⟩] Run.afterSeven
      ∃ final,
        ((Builder.greatest.engine 0 {}).native 1 none).run later = (.ok (.int32 7), final) ∧
        final.cache.entries = later.cache.entries ∧
        final.cache.stats.stores = later.cache.stats.stores := by
  have given : ((Builder.greatest.engine 0 {}).native 1 none).run
      (.start DataSet.seven.source) = (.ok (.int32 7), Run.afterSeven) := by cbv
  have caching : ({} : Options).cacheAggregates = true := rfl
  have source : (Run.start DataSet.seven.source).data = DataSet.seven.source := rfl
  rcases memoized_results_are_stable Builder.built_greatest 0 caching DataSet.seven source with
    ⟨_, stable⟩
  exact ⟨Builder.built_greatest, given, stable 1 none _ _ given _⟩

end GroupedReport
