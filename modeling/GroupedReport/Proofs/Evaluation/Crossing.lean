import GroupedReport.Proofs.Evaluation.Memoization
import GroupedReport.Proofs.Evaluation.Resemblance
import GroupedReport.Proofs.Evaluation.Visits
import GroupedReport.Proofs.Expression.Walk

/-!
# What crossing a boundary forgets

An evaluation keeps what was kept, and stores values of aggregates in its tree and of no others. The
boundary of some roots has the keys of their trees. So crossing it forgets what evaluations of the
roots have stored, and leaves what others have stored.
-/

namespace GroupedReport

open Expression

/-! ## Counts -/

namespace Run

def lost (before after : Run) : Set Slot :=
  {slot | before.cache.peek? slot ≠ none ∧ after.cache.peek? slot = none}

def heldAmong (run : Run) (keys : List AggregateKey) : Set Slot :=
  {slot | slot ∈ keys.map Slot.aggregate ∧ run.cache.peek? slot ≠ none}

theorem mem_lost {before after : Run} {slot : Slot} :
    slot ∈ before.lost after ↔
      before.cache.peek? slot ≠ none ∧ after.cache.peek? slot = none := Iff.rfl

theorem mem_heldAmong {run : Run} {keys : List AggregateKey} {slot : Slot} :
    slot ∈ run.heldAmong keys ↔
      slot ∈ keys.map Slot.aggregate ∧ run.cache.peek? slot ≠ none := Iff.rfl

theorem finite_heldAmong (run : Run) (keys : List AggregateKey) : (run.heldAmong keys).Finite :=
  (keys.map Slot.aggregate).finite_toSet.subset fun _ held => held.1

theorem lost_cross (run : Run) (boundary : Boundary) :
    run.lost (run.cross boundary) = run.heldAmong boundary.keys := by
  ext slot
  rw [mem_lost, mem_heldAmong, peek?_cross]
  by_cases inBoundary : slot ∈ boundary.keys.map Slot.aggregate
  · simp [inBoundary]
  · simp [inBoundary]

theorem invalidate_of_absent {run : Run} {key : AggregateKey}
    (absent : run.cache.peek? (.aggregate key) = none) : run.invalidate key = run := by
  rw [invalidate, Cache.drop, absent]
  rfl

theorem stats_invalidate_of_held {run : Run} {key : AggregateKey}
    (held : run.cache.peek? (.aggregate key) ≠ none) :
    (run.invalidate key).cache.stats =
      { run.cache.stats with invalidations := run.cache.stats.invalidations + 1 } := by
  rw [invalidate, Cache.drop, if_pos (Option.isSome_iff_ne_none.mpr held)]

theorem heldAmong_cons_of_absent {run : Run} {key : AggregateKey} (keys : List AggregateKey)
    (absent : run.cache.peek? (.aggregate key) = none) :
    run.heldAmong (key :: keys) = run.heldAmong keys := by
  ext slot
  rw [mem_heldAmong, mem_heldAmong, List.map_cons, List.mem_cons, or_and_right]
  refine or_iff_right ?_
  rintro ⟨rfl, held⟩
  exact held absent

theorem heldAmong_cons_of_held {run : Run} {key : AggregateKey} (keys : List AggregateKey)
    (held : run.cache.peek? (.aggregate key) ≠ none) :
    run.heldAmong (key :: keys) = insert (.aggregate key) ((run.invalidate key).heldAmong keys) ∧
      .aggregate key ∉ (run.invalidate key).heldAmong keys := by
  constructor
  · ext slot
    rw [Set.mem_insert_iff, mem_heldAmong, mem_heldAmong, peek?_invalidate, List.map_cons,
      List.mem_cons]
    by_cases same : slot = .aggregate key
    · simp [same, held]
    · simp [same]
  · rintro ⟨_, stillHeld⟩
    rw [peek?_invalidate, if_pos rfl] at stillHeld
    exact stillHeld rfl

theorem stats_cross (run : Run) (boundary : Boundary) :
    (run.cross boundary).cache.stats =
      { run.cache.stats with
        invalidations :=
          run.cache.stats.invalidations + (run.lost (run.cross boundary)).ncard } := by
  rw [lost_cross, cross]
  generalize boundary.keys = keys
  induction keys generalizing run with
  | nil =>
      have none : run.heldAmong [] = ∅ :=
        Set.eq_empty_of_forall_notMem fun _ held => List.not_mem_nil held.1
      rw [none, Set.ncard_empty]
      rfl
  | cons key rest induction =>
      rw [List.foldl_cons, induction]
      by_cases absent : run.cache.peek? (.aggregate key) = none
      · rw [invalidate_of_absent absent, heldAmong_cons_of_absent rest absent]
      · rcases heldAmong_cons_of_held rest absent with ⟨equal, new⟩
        rw [equal, Set.ncard_insert_of_notMem new (finite_heldAmong _ _),
          stats_invalidate_of_held absent, Nat.add_comm (Set.ncard _) 1, Nat.add_assoc]

theorem held_cross_iff (run : Run) (boundary : Boundary) {key : AggregateKey} {value : Value} :
    (run.cross boundary).cache.peek? (.aggregate key) = some value ↔
      key ∉ boundary.keys ∧ run.cache.peek? (.aggregate key) = some value := by
  rw [peek?_cross]
  by_cases inBoundary : key ∈ boundary.keys
  · simp [inBoundary]
  · simp [inBoundary]

theorem workState?_cross (run : Run) (boundary : Boundary) (owner name : String) :
    (run.cross boundary).workState? owner name = run.workState? owner name := by
  simp [workState?, peek?_cross]

end Run

/-! ## What an evaluation keeps and what it stores -/

namespace Engine

variable (engine : Engine)

theorem peek?_settle_of_held {key : AggregateKey} {extent : Extent} {slot : Slot} {value : Value}
    {before : Run} {result : Except EvaluationError Value × Run}
    (missing : engine.kept? before key = none) (held : before.cache.peek? slot = some value)
    (stillHeld : result.2.cache.peek? slot = some value) :
    (engine.settle extent key result).2.cache.peek? slot = some value := by
  rcases result with ⟨_ | given, after⟩
  · exact stillHeld
  · rw [settle]
    dsimp only
    split
    · rename_i keeps
      have different : slot ≠ .aggregate key := by
        rintro rfl
        rw [kept?, if_pos (Bool.and_eq_true_iff.mp keeps).1, held] at missing
        cases missing
      rw [Cache.peek?_store_of_ne different]
      exact stillHeld
    · exact stillHeld

theorem peek?_evaluateTree_of_held (tree : Tree) (row? : Option RowId) {run : Run} {slot : Slot}
    {value : Value} (held : run.cache.peek? slot = some value) :
    ((engine.evaluateTree tree row?).run run).2.cache.peek? slot = some value := by
  induction tree generalizing row? run with
  | unknown | literal => exact held
  | field id column kind =>
      cases row? with
      | none => exact held
      | some row =>
          rw [run_field]
          exact held
  | unary id operator operand induction =>
      rw [run_unary]
      exact induction row? held
  | binary id operator left right leftInduction rightInduction =>
      have afterLeft := leftInduction row? held
      rw [run_binary]
      rcases leftEqual : (engine.evaluateTree left row?).run run with ⟨_ | leftValue, between⟩
      · rw [leftEqual] at afterLeft
        exact afterLeft
      · rw [leftEqual] at afterLeft
        exact rightInduction row? afterLeft
  | aggregate id function inner scope key kind induction =>
      rw [evaluateTree, Aggregate.run_evaluate]
      cases binds : run.bindTo engine.program.id with
      | error error => exact held
      | ok bound =>
          have boundHeld : bound.cache.peek? slot = some value :=
            ((Run.alike_bindTo binds).1.peek?_eq slot).trans held
          have searchedHeld : (engine.searched bound key).cache.peek? slot = some value :=
            ((bound.alike_searched engine key).peek?_eq slot).trans boundHeld
          dsimp only
          cases bound.data.extent? scope row? with
          | none => exact boundHeld
          | some extent =>
              cases missing : engine.kept? bound key with
              | some kept => exact searchedHeld
              | none =>
                  apply engine.peek?_settle_of_held missing boundHeld
                  exact Aggregate.reduce_keeps (fun run => run.cache.peek? slot = some value)
                    (fun row run held => induction (some row) held) function extent.rows
                    searchedHeld

theorem workState?_evaluateTree (tree : Tree) (row? : Option RowId) (run : Run)
    (owner name : String) :
    ((engine.evaluateTree tree row?).run run).2.workState? owner name =
      run.workState? owner name := by
  have steady : Run.Steady engine.program.id fun other =>
      other.workState? owner name = run.workState? owner name :=
    fun alike _ same => (alike.peek?_eq _).trans same
  refine (engine.ensures_invariant steady ?_ tree row? run rfl).2
  intro before key value same
  have different : Slot.workState owner name ≠ .aggregate key := nofun
  exact (Cache.peek?_store_of_ne different).trans same

variable {engine}

theorem Visits.keys_subset {first last : Visit} (visits : engine.Visits first last) :
    last.tree.keys ⊆ first.tree.keys := by
  induction visits with
  | self => exact List.Subset.refl _
  | operand _ induction => exact induction
  | left _ induction => exact List.subset_append_of_subset_left _ induction
  | right _ _ induction => exact List.subset_append_of_subset_right _ induction
  | inner _ _ _ _ _ _ induction => exact List.subset_cons_of_subset _ induction

theorem mem_keys_of_stored {tree : Tree} {row? : Option RowId} {run : Run} {key : AggregateKey}
    {value : Value} (absent : run.cache.peek? (.aggregate key) = none)
    (held : ((engine.evaluateTree tree row?).run run).2.cache.peek? (.aggregate key) = some value) :
    key ∈ tree.keys := by
  rcases engine.kept_or_brought tree held with before | brings
  · rw [absent] at before
    cases before
  · rcases brings.visit with ⟨last, visits, ⟨id, function, inner, scope, kind, equal⟩, _⟩
    apply visits.keys_subset
    rw [equal]
    exact List.mem_cons_self

end Engine

/-! ## Queries -/

structure Query where
  options : Options
  request : Request

namespace Expression.Program

variable (program : Program)

def answer (query : Query) : Evaluate Value :=
  Engine.evaluateAs ⟨program, query.options⟩ query.request.kind query.request.id query.request.row?

def answerAll (queries : List Query) (run : Run) : Run :=
  queries.foldl (fun run query => ((program.answer query).run run).2) run

/-- Whether a query stores the value of an aggregate once others were answered. -/
structure StoredBy (earlier : List Query) (query : Query) (run : Run) (key : AggregateKey)
    (value : Value) : Prop where
  absent : (program.answerAll earlier run).cache.peek? (.aggregate key) = none
  held : (program.answerAll (earlier ++ [query]) run).cache.peek? (.aggregate key) = some value

theorem run_answer_snd (query : Query) (run : Run) :
    ((program.answer query).run run).2 =
      ((Engine.evaluateTree ⟨program, query.options⟩ (program.tree query.request.id)
        query.request.row?).run run).2 :=
  Engine.run_evaluateAs_snd ..

theorem answerAll_append (first second : List Query) (run : Run) :
    program.answerAll (first ++ second) run =
      program.answerAll second (program.answerAll first run) :=
  List.foldl_append

theorem answerAll_keeps (property : Run → Prop)
    (each : ∀ query run, property run → property ((program.answer query).run run).2)
    (queries : List Query) {run : Run} (start : property run) :
    property (program.answerAll queries run) :=
  List.foldlRecOn queries _ start fun run kept query _ => each query run kept

theorem peek?_answerAll_of_held (queries : List Query) {run : Run} {slot : Slot} {value : Value}
    (held : run.cache.peek? slot = some value) :
    (program.answerAll queries run).cache.peek? slot = some value := by
  refine program.answerAll_keeps (fun run => run.cache.peek? slot = some value) ?_ queries held
  intro query run held
  rw [run_answer_snd]
  exact Engine.peek?_evaluateTree_of_held _ _ _ held

theorem workState?_answerAll (queries : List Query) (run : Run) (owner name : String) :
    (program.answerAll queries run).workState? owner name = run.workState? owner name := by
  refine program.answerAll_keeps
    (fun other => other.workState? owner name = run.workState? owner name) ?_ queries rfl
  intro query other same
  rw [run_answer_snd, Engine.workState?_evaluateTree, same]

variable {program}

theorem StoredBy.mem_keys {earlier : List Query} {query : Query} {run : Run} {key : AggregateKey}
    {value : Value} (stored : program.StoredBy earlier query run key value) :
    key ∈ (program.tree query.request.id).keys := by
  have held := stored.held
  rw [answerAll_append] at held
  change ((program.answer query).run _).2.cache.peek? _ = _ at held
  rw [run_answer_snd] at held
  exact Engine.mem_keys_of_stored stored.absent held

theorem held_answerAll_iff {queries : List Query} {run : Run} {key : AggregateKey}
    (absent : run.cache.peek? (.aggregate key) = none) {value : Value} :
    (program.answerAll queries run).cache.peek? (.aggregate key) = some value ↔
      ∃ earlier query later, queries = earlier ++ query :: later ∧
        program.StoredBy earlier query run key value := by
  constructor
  · intro held
    induction queries using List.reverseRecOn with
    | nil =>
        rw [answerAll, List.foldl_nil, absent] at held
        cases held
    | append_singleton queries last induction =>
        cases before : (program.answerAll queries run).cache.peek? (.aggregate key) with
        | none => exact ⟨queries, last, [], rfl, before, held⟩
        | some other =>
            have still := program.peek?_answerAll_of_held [last] before
            rw [← answerAll_append, held] at still
            cases still
            rcases induction before with ⟨earlier, query, later, rfl, stored⟩
            exact ⟨earlier, query, later ++ [last], by simp, stored⟩
  · rintro ⟨earlier, query, later, rfl, stored⟩
    rw [List.append_cons, answerAll_append]
    exact program.peek?_answerAll_of_held later stored.held

theorem resemble_answerAll {data : DataSource} (queries : List Query) {first second : Run}
    (resemble : Run.Resemble data program.id first second) :
    Run.Resemble data program.id (program.answerAll queries first)
      (program.answerAll queries second) := by
  induction queries generalizing first second with
  | nil => exact resemble
  | cons query rest induction =>
      exact induction (Engine.isBlind_evaluateAs ⟨program, query.options⟩ data _ _ _ first second
        resemble).runs

end Expression.Program

section

variable (program : Program) (name : String) (roots : List NodeId) {run : Run}
  (empty : ∀ key, run.cache.peek? (.aggregate key) = none) {queries : List Query}
  (apart : ∀ query ∈ queries, query.request.id ∈ roots ∨ ∀ root ∈ roots,
    (program.tree query.request.id).keys.Disjoint (program.tree root).keys)
include empty apart

/-- What is left behind the boundary of some roots was stored by queries of other nodes. -/
theorem held_after_crossing_iff {key : AggregateKey} {value : Value} :
    ((program.answerAll queries run).cross (.ofRoots name program roots)).cache.peek?
        (.aggregate key) = some value ↔
      ∃ earlier query later, queries = earlier ++ query :: later ∧ query.request.id ∉ roots ∧
        program.StoredBy earlier query run key value := by
  rw [Run.held_cross_iff, Boundary.mem_keys_ofRoots, Program.held_answerAll_iff (empty key)]
  constructor
  · rintro ⟨outside, earlier, query, later, split, stored⟩
    exact ⟨earlier, query, later, split,
      fun isRoot => outside ⟨query.request.id, isRoot, stored.mem_keys⟩, stored⟩
  · rintro ⟨earlier, query, later, split, notRoot, stored⟩
    have member : query ∈ queries := split ▸ List.mem_append_right _ List.mem_cons_self
    have disjoint := (apart query member).resolve_left notRoot
    refine ⟨?_, earlier, query, later, split, stored⟩
    rintro ⟨root, isRoot, inRoot⟩
    exact disjoint root isRoot stored.mem_keys inRoot

theorem absent_after_crossing (allRoots : ∀ query ∈ queries, query.request.id ∈ roots)
    (key : AggregateKey) :
    ((program.answerAll queries run).cross (.ofRoots name program roots)).cache.peek?
      (.aggregate key) = none := by
  apply Option.eq_none_iff_forall_not_mem.mpr
  intro value held
  rcases (held_after_crossing_iff program name roots empty apart).mp held with
    ⟨earlier, query, later, split, notRoot, _⟩
  have member : query ∈ queries := split ▸ List.mem_append_right _ List.mem_cons_self
  exact notRoot (allRoots query member)

end

/-- Crossing the boundary of some roots forgets what evaluations of the roots have stored, and
nothing else. It counts the slots that it drops. Other evaluations whose aggregates have other keys
lose nothing. Where the roots alone were evaluated, no value of an aggregate is left; so unless the
run is bound to another program, every later evaluation gives what it gives in a new run. -/
theorem crossing_forgets_roots (program : Program) (name : String) (roots : List NodeId) {run : Run}
    (empty : ∀ key, run.cache.peek? (.aggregate key) = none) (queries : List Query)
    (apart : ∀ query ∈ queries, query.request.id ∈ roots ∨ ∀ root ∈ roots,
      (program.tree query.request.id).keys.Disjoint (program.tree root).keys) :
    let asked := program.answerAll queries run
    let after := asked.cross (.ofRoots name program roots)
    (∀ owner element, after.workState? owner element = run.workState? owner element) ∧
    after.cache.stats =
      { asked.cache.stats with
        invalidations := asked.cache.stats.invalidations + (asked.lost after).ncard } ∧
    (∀ key value, after.cache.peek? (.aggregate key) = some value ↔
      ∃ earlier query later, queries = earlier ++ query :: later ∧ query.request.id ∉ roots ∧
        program.StoredBy earlier query run key value) ∧
    ((∀ query ∈ queries, query.request.id ∈ roots) →
      (∀ key, after.cache.peek? (.aggregate key) = none) ∧
      (run.program? = none ∨ run.program? = some program.id →
        ∀ further query, ((program.answer query).run (program.answerAll further after)).1 =
          ((program.answer query).run (program.answerAll further (.start run.data))).1)) := by
  intro asked after
  refine ⟨?_, asked.stats_cross _,
    fun key value => held_after_crossing_iff program name roots empty apart, ?_⟩
  · intro owner element
    exact (asked.workState?_cross _ owner element).trans
      (program.workState?_answerAll queries run owner element)
  · intro allRoots
    have absent := absent_after_crossing program name roots empty apart allRoots
    refine ⟨absent, ?_⟩
    intro free further query
    have isFree : run.Over run.data program.id := ⟨rfl, free⟩
    have askedFree : asked.Over run.data program.id :=
      (Program.resemble_answerAll queries ⟨isFree, isFree, fun _ => rfl⟩).firstOver
    have fresh := Run.Resemble.start (askedFree.cross (.ofRoots name program roots)) absent
    exact (Engine.isBlind_evaluateAs ⟨program, query.options⟩ run.data _ _ _ _ _
      (Program.resemble_answerAll further fresh)).result

def Expression.Builder.bothGreatest : Builder :=
  { nodes := #[.field 0 .int32, .aggregate .max 0 .default 0 .int32,
      .aggregate .max 0 (.dataSet "Numbers") 1 .int32]
    nextKey := 2 }

/-- The greatest number of the data set is kept when the innermost group is left. -/
theorem greatest_of_data_set_is_left :
    let program := Program.ofBuilder 0 .bothGreatest
    let queries : List Query := [⟨{}, ⟨.object, 1, some 0⟩⟩, ⟨{}, ⟨.object, 2, some 0⟩⟩]
    let asked := program.answerAll queries (.start DataSet.seven.source)
    let after := asked.cross (.ofRoots "Group" program [1])
    asked.cache.peek? (.aggregate 0) = some (.int32 7) ∧
    after.cache.peek? (.aggregate 0) = none ∧
    after.cache.peek? (.aggregate 1) = some (.int32 7) := by
  intro program queries asked after
  have empty (key : AggregateKey) :
      (Run.start DataSet.seven.source).cache.peek? (.aggregate key) = none := rfl
  have groupKeys : (program.tree 1).keys = [0] := by cbv
  have dataSetKeys : (program.tree 2).keys = [1] := by cbv
  have apart : ∀ query ∈ queries, query.request.id ∈ [1] ∨ ∀ root ∈ [1],
      (program.tree query.request.id).keys.Disjoint (program.tree root).keys := by
    simp [queries, groupKeys, dataSetKeys]
  rcases crossing_forgets_roots program "Group" [1] empty queries apart with ⟨_, _, survives, _⟩
  refine ⟨?_, ?_, ?_⟩
  · dsimp only [asked]
    cbv
  · dsimp only [after, asked]
    cbv
  · exact (survives 1 (.int32 7)).mpr ⟨queries.take 1, _, [], rfl, by decide, by cbv, by cbv⟩

/-- A run that is bound to another program stays so behind a boundary, though it never kept a
value. So an evaluation fails there that gives a value in a new run. -/
theorem crossing_leaves_run_bound :
    let program := Program.ofBuilder 0 .greatest
    let other := Program.ofBuilder 1 .greatest
    let bound := other.answerAll [⟨{ cacheAggregates := false }, ⟨.object, 1, none⟩⟩]
      (.start DataSet.seven.source)
    let query : Query := ⟨{}, ⟨.object, 1, none⟩⟩
    let after := (program.answerAll [query] bound).cross (.ofRoots "Numbers" program [1])
    Builder.greatest.Built ∧ bound.cache.entries = [] ∧
      ((program.answer query).run after).1 = .error (.foreignProgram 1 0) ∧
      ((program.answer query).run (.start bound.data)).1 = .ok (.int32 7) :=
  ⟨Builder.built_greatest, by cbv, by cbv, by cbv⟩

end GroupedReport
