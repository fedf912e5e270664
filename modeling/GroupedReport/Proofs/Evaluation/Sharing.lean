import GroupedReport.Proofs.Evaluation.Memoization
import GroupedReport.Proofs.Evaluation.Visits

/-!
# Runs that several programs use

Engines of any programs can be given the same run, and the keys of their aggregates overlap. A run
keeps the values of one program only: an evaluation of another one ends where it comes to an
aggregate and leaves what is kept alone, and one that comes to none depends on the data alone.
-/

namespace GroupedReport

open Expression

/-! ## Evaluations of other programs -/

def Run.reading (run : Run) (reads : Nat) : Run :=
  { run with reads := run.reads + reads }

theorem Run.reading_reading (run : Run) (first second : Nat) :
    (run.reading first).reading second = run.reading (first + second) := by
  rw [reading, reading, reading, Nat.add_assoc]

namespace Engine

variable {engine : Engine}

theorem VisitsAggregate.of_visits {first middle : Visit}
    (visits : ∀ {last}, engine.Visits middle last → engine.Visits first last)
    (visitsAggregate : engine.VisitsAggregate middle) : engine.VisitsAggregate first := by
  rcases visitsAggregate with ⟨last, key, visited, isAggregate⟩
  exact ⟨last, key, visits visited, isAggregate⟩

theorem outcome_of_no_aggregate (tree : Tree) {row? : Option RowId} {run : Run}
    (visitsNone : ¬engine.VisitsAggregate ⟨tree, row?, run⟩) :
    ∃ result reads, ∀ other : Run, other.data = run.data →
      (engine.evaluateTree tree row?).run other = (result, other.reading reads) := by
  induction tree generalizing row? run with
  | unknown id => exact ⟨.error (.unknownNode id), 0, fun _ _ => rfl⟩
  | literal id value kind => exact ⟨.ok value, 0, fun _ _ => rfl⟩
  | field id column kind =>
      cases row? with
      | none => exact ⟨.ok .null, 0, fun _ _ => rfl⟩
      | some row =>
          refine ⟨(run.data.value row column).bind fun value =>
            (value.coerce kind).mapError .conversion, 1, fun other same => ?_⟩
          rw [run_field, same, Run.reading, same]
  | unary id operator operand induction =>
      rcases induction fun visits => visitsNone (visits.of_visits .operand) with
        ⟨result, reads, equal⟩
      refine ⟨result.bind fun value => (Operator.unary operator value).mapError .ofOperator, reads,
        fun other same => ?_⟩
      rw [run_unary, equal other same]
  | binary id operator left right leftInduction rightInduction =>
      rcases leftInduction fun visits => visitsNone (visits.of_visits .left) with
        ⟨error | leftValue, leftReads, leftEqual⟩
      · refine ⟨.error error, leftReads, fun other same => ?_⟩
        rw [run_binary, leftEqual other same]
      · rcases rightInduction fun visits =>
            visitsNone (visits.of_visits (.right (leftEqual run rfl))) with
          ⟨result, reads, equal⟩
        refine ⟨result.bind fun rightValue =>
          (Operator.binary operator leftValue rightValue).mapError .ofOperator, leftReads + reads,
          fun other same => ?_⟩
        have rightEqual := equal (other.reading leftReads) same
        rw [run_binary, leftEqual other same]
        dsimp only
        rw [rightEqual, Run.reading_reading]
  | aggregate id function inner scope key kind =>
      exact absurd ⟨_, key, .self _, id, function, inner, scope, kind, rfl⟩ visitsNone

theorem outcome_of_foreign (tree : Tree) {row? : Option RowId} {run : Run} {bound : ProgramId}
    (isBound : run.program? = some bound) (foreign : engine.program.id ≠ bound)
    (visitsAggregate : engine.VisitsAggregate ⟨tree, row?, run⟩) :
    ∃ reads, (engine.evaluateTree tree row?).run run =
      (.error (.foreignProgram bound engine.program.id), run.reading reads) := by
  induction tree generalizing row? run with
  | unknown | literal | field =>
      rcases visitsAggregate with ⟨_, _, ⟨⟩, _, _, _, _, _, equal⟩
      cases equal
  | unary id operator operand induction =>
      rcases visitsAggregate with ⟨last, key, visits, isAggregate⟩
      cases visits with
      | self =>
          rcases isAggregate with ⟨_, _, _, _, _, equal⟩
          cases equal
      | operand visits =>
          rcases induction isBound ⟨last, key, visits, isAggregate⟩ with ⟨reads, equal⟩
          refine ⟨reads, ?_⟩
          rw [run_unary, equal]
          rfl
  | binary id operator left right leftInduction rightInduction =>
      by_cases inLeft : engine.VisitsAggregate ⟨left, row?, run⟩
      · rcases leftInduction isBound inLeft with ⟨reads, equal⟩
        refine ⟨reads, ?_⟩
        rw [run_binary, equal]
      · -- The left operand leaves the run bound as it is, so it is the right one that fails.
        rcases outcome_of_no_aggregate left inLeft with ⟨result, leftReads, leftEqual⟩
        have leftEqual := leftEqual run rfl
        rcases visitsAggregate with ⟨last, key, visits, isAggregate⟩
        cases visits with
        | self =>
            rcases isAggregate with ⟨_, _, _, _, _, equal⟩
            cases equal
        | left visits => exact absurd ⟨last, key, visits, isAggregate⟩ inLeft
        | right leftOk visits =>
            rw [leftOk] at leftEqual
            have betweenEqual := (Prod.mk.inj leftEqual).2
            have betweenBound := (congrArg Run.program? betweenEqual).trans isBound
            rcases rightInduction betweenBound ⟨last, key, visits, isAggregate⟩ with
              ⟨reads, equal⟩
            refine ⟨leftReads + reads, ?_⟩
            rw [run_binary, leftOk]
            dsimp only
            rw [equal, betweenEqual, Run.reading_reading]
            rfl
  | aggregate id function inner scope key kind =>
      refine ⟨0, ?_⟩
      have binds : run.bindTo engine.program.id =
          .error (.foreignProgram bound engine.program.id) := by
        rw [Run.bindTo, isBound]
        exact if_neg (Ne.symm foreign)
      rw [evaluateTree, Aggregate.run_evaluate, binds]
      rfl

theorem outcome_of_other {run : Run} {bound : ProgramId} (isBound : run.program? = some bound)
    (foreign : engine.program.id ≠ bound) (kind : Kind) (id : NodeId) (row? : Option RowId) :
    let visit : Visit := ⟨engine.program.tree id, row?, run⟩
    let outcome := (engine.evaluateAs kind id row?).run run
    (∃ reads, outcome.2 = run.reading reads) ∧
      (engine.VisitsAggregate visit →
        outcome.1 = .error (.foreignProgram bound engine.program.id)) ∧
      (¬engine.VisitsAggregate visit →
        outcome.1 = ((engine.evaluateAs kind id row?).run (.start run.data)).1) := by
  intro visit outcome
  have typed := engine.run_evaluateAs kind id row?
  by_cases visitsAggregate : engine.VisitsAggregate visit
  · rcases outcome_of_foreign (engine.program.tree id) isBound foreign visitsAggregate with
      ⟨reads, native⟩
    have equal : outcome =
        (.error (.foreignProgram bound engine.program.id), run.reading reads) := by
      rw [show outcome = _ from typed run, Engine.native, native]
      rfl
    rw [equal]
    exact ⟨⟨reads, rfl⟩, fun _ => rfl, fun none => absurd visitsAggregate none⟩
  · rcases outcome_of_no_aggregate (engine.program.tree id) visitsAggregate with
      ⟨result, reads, native⟩
    have fresh := typed (.start run.data)
    rw [Engine.native, native (.start run.data) rfl] at fresh
    have equal := typed run
    rw [Engine.native, native run rfl] at equal
    refine ⟨⟨reads, congrArg Prod.snd equal⟩, fun visits => absurd visits visitsAggregate, ?_⟩
    intro _
    exact (congrArg Prod.fst equal).trans (congrArg Prod.fst fresh).symm

end Engine

/-! ## Everything that happens to a run -/

inductive Run.Event
  | evaluate (program : ProgramId) (options : Options) (request : Request)
  | invalidate (key : AggregateKey)
  | cross (boundary : Boundary)
  | setWorkState (owner name : String) (value : Value)
  | reset

section

variable (programs : ProgramId → Array Node)

def Engine.of (program : ProgramId) (options : Options) : Engine :=
  { program := { id := program, nodes := programs program }, options }

def Engine.requested (engine : Engine) (request : Request) (run : Run) : Visit :=
  ⟨engine.program.tree request.id, request.row?, run⟩

theorem Engine.respond_singleton (engine : Engine) (request : Request) (run : Run) :
    engine.respond [request] run = ((engine.requested request run).outcome engine).2 :=
  engine.run_evaluateAs_snd request.kind request.id request.row? run

namespace Run

def afterEvent (run : Run) : Event → Run
  | .evaluate program options request => (Engine.of programs program options).respond [request] run
  | .invalidate key => run.invalidate key
  | .cross boundary => run.cross boundary
  | .setWorkState owner name value => run.setWorkState owner name value
  | .reset => run.reset

def afterEvents (run : Run) (events : List Event) : Run :=
  events.foldl (afterEvent programs) run

theorem afterEvents_append (run : Run) (first second : List Event) :
    run.afterEvents programs (first ++ second) =
      (run.afterEvents programs first).afterEvents programs second :=
  List.foldl_append

/-- Whether an evaluation between other events stored the value of an aggregate of its program, and
the value has been kept since. -/
structure Stored (data : DataSource) (earlier later : List Event) (program : ProgramId)
    (options : Options) (request : Request) (key : AggregateKey) (value : Value) : Prop where
  visit :
    let engine := Engine.of programs program options
    let before := (start data).afterEvents programs earlier
    ∃ last position function operand scope kind,
      (programs program)[position]? = some (.aggregate function operand scope key kind) ∧
      last.tree = engine.program.tree position ∧
      engine.Visits (engine.requested request before) last ∧ engine.Stores last key value
  kept (passed : List Event) : passed <+: later →
    ((start data).afterEvents programs
      (earlier ++ .evaluate program options request :: passed)).cache.peek? (.aggregate key) =
        some value

/-- Whether the run that events leave is bound to a program, one of whose evaluations among the
events stored a value. -/
structure Serves (data : DataSource) (events : List Event) (program : ProgramId)
    (key : AggregateKey) (value : Value) : Prop where
  bound : ((start data).afterEvents programs events).program? = some program
  stored : ∃ earlier options request later,
    events = earlier ++ .evaluate program options request :: later ∧
      Stored programs data earlier later program options request key value

variable {programs} {data : DataSource} {events : List Event} {event : Event}
  {key : AggregateKey} {value : Value}

theorem Serves.append {program : ProgramId} (serves : Serves programs data events program key value)
    (bound : ((start data).afterEvents programs (events ++ [event])).program? = some program)
    (held : ((start data).afterEvents programs (events ++ [event])).cache.peek? (.aggregate key) =
      some value) :
    Serves programs data (events ++ [event]) program key value := by
  rcases serves.stored with ⟨earlier, options, request, later, equal, stored⟩
  have split : events ++ [event] =
      earlier ++ .evaluate program options request :: (later ++ [event]) := by
    rw [equal, List.append_assoc, List.cons_append]
  refine ⟨bound, earlier, options, request, later ++ [event], split, stored.visit, ?_⟩
  intro passed isPrefix
  rcases List.prefix_concat_iff.mp isPrefix with rfl | shorter
  · rw [← split]
    exact held
  · exact stored.kept passed shorter

theorem afterEvent_of_not_evaluate (run : Run)
    (other : ∀ program options request, event ≠ .evaluate program options request)
    (held : (run.afterEvent programs event).cache.peek? (.aggregate key) = some value) :
    run.cache.peek? (.aggregate key) = some value ∧
      (run.afterEvent programs event).program? = run.program? := by
  cases event with
  | evaluate program options request => exact absurd rfl (other program options request)
  | invalidate dropped =>
      rw [afterEvent, peek?_invalidate] at held
      split at held
      · cases held
      · exact ⟨held, rfl⟩
  | cross boundary =>
      rw [afterEvent, peek?_cross] at held
      split at held
      · cases held
      · exact ⟨held, program?_cross run boundary⟩
  | setWorkState owner name stored =>
      have different : Slot.aggregate key ≠ .workState owner name := nofun
      rw [afterEvent, setWorkState, Cache.peek?_store_of_ne different] at held
      exact ⟨held, rfl⟩
  | reset => cases held

theorem serves_append
    (before : ((start data).afterEvents programs events).cache.peek? (.aggregate key) = some value →
      ∃ program, Serves programs data events program key value)
    (held : ((start data).afterEvents programs (events ++ [event])).cache.peek? (.aggregate key) =
      some value) :
    ∃ program, Serves programs data (events ++ [event]) program key value := by
  have last : (start data).afterEvents programs (events ++ [event]) =
      ((start data).afterEvents programs events).afterEvent programs event :=
    afterEvents_append ..
  have stillHeld := held
  rw [last] at stillHeld
  cases event with
  | evaluate program options request =>
      have outcome := (Engine.of programs program options).respond_singleton request
        ((start data).afterEvents programs events)
      rw [afterEvent, outcome] at stillHeld
      rcases Engine.kept_or_brought _ stillHeld with earlierHeld | brings
      · rcases before earlierHeld with ⟨owner, serves⟩
        refine ⟨owner, serves.append ?_ held⟩
        rw [last, afterEvent, outcome]
        exact Engine.program?_evaluateTree _ _ _ serves.bound
      · refine ⟨program, ?_, events, options, request, [], rfl, ?_, ?_⟩
        · rw [last, afterEvent, outcome]
          exact brings.bound
        · rcases brings.visit with ⟨visited, visits, isAggregate, stores⟩
          rcases isAggregate with ⟨position, function, inner, scope, kind, equal⟩
          have ofNode := visits.isOfNode (Tree.isOfNode_ofNodes (programs program) request.id)
          rw [equal] at ofNode
          rcases ofNode.aggregate with ⟨same, operand, found⟩
          exact ⟨visited, position, function, operand, scope, kind, found, equal.trans same, visits,
            stores⟩
        · intro passed isPrefix
          rw [List.prefix_nil.mp isPrefix]
          exact held
  | invalidate | cross | setWorkState | reset =>
      rcases afterEvent_of_not_evaluate _ (by rintro _ _ _ ⟨⟩) stillHeld with ⟨earlierHeld, same⟩
      rcases before earlierHeld with ⟨owner, serves⟩
      refine ⟨owner, serves.append ?_ held⟩
      rw [last, same]
      exact serves.bound

theorem exists_serves
    (held : ((start data).afterEvents programs events).cache.peek? (.aggregate key) = some value) :
    ∃ program, Serves programs data events program key value := by
  induction events using List.reverseRecOn with
  | nil => cases held
  | append_singleton events event induction => exact serves_append induction held

theorem data_afterEvents (events : List Event) :
    ((start data).afterEvents programs events).data = data := by
  induction events using List.reverseRecOn with
  | nil => rfl
  | append_singleton events event induction =>
      rw [afterEvents_append]
      change (((start data).afterEvents programs events).afterEvent programs event).data = data
      cases event with
      | evaluate program options request =>
          rw [afterEvent, Engine.respond_singleton]
          exact ((Engine.of programs program options).ensures_data data _ _ _ induction).2
      | cross boundary => exact (data_cross _ boundary).trans induction
      | invalidate | setWorkState | reset => exact induction

end Run

end

/-- A run serves one program at a time, whatever engines of any programs do with it and whatever is
dropped or stored in between. A value that is kept for an aggregate was stored by an evaluation of
the program that the run is bound to, for an aggregate of that program with that key. An evaluation
of another program leaves what is kept, the counts and the bound program as they are: it fails if it
comes to an aggregate, and otherwise gives what it gives in a run that has just been started. -/
theorem runs_serve_one_program (programs : ProgramId → Array Node) (data : DataSource)
    (events : List Run.Event) :
    let run := (Run.start data).afterEvents programs events
    (∀ key value, run.cache.peek? (.aggregate key) = some value →
      ∃ program, Run.Serves programs data events program key value) ∧
    ∀ bound program, run.program? = some bound → program ≠ bound →
      ∀ (options : Options) (request : Request),
        let engine := Engine.of programs program options
        let evaluation := engine.evaluateAs request.kind request.id request.row?
        let outcome := evaluation.run run
        outcome.2.cache = run.cache ∧ outcome.2.program? = some bound ∧
          (engine.VisitsAggregate (engine.requested request run) →
            outcome.1 = .error (.foreignProgram bound program)) ∧
          (¬engine.VisitsAggregate (engine.requested request run) →
            outcome.1 = (evaluation.run (.start data)).1) := by
  intro run
  refine ⟨fun key value => Run.exists_serves, ?_⟩
  intro bound program isBound foreign options request engine evaluation outcome
  rcases engine.outcome_of_other isBound foreign request.kind request.id request.row? with
    ⟨⟨reads, after⟩, fails, fresh⟩
  rw [Run.data_afterEvents] at fresh
  have unchanged : outcome.2 = run.reading reads := after
  refine ⟨?_, ?_, fails, fresh⟩
  · rw [unchanged, Run.reading]
  · rw [unchanged]
    exact isBound

/-- The greatest number that a run keeps for one program is refused to another one with the same
nodes, which still gets the number in a row. -/
theorem greatest_number_is_refused_to_others :
    let programs : ProgramId → Array Node := fun _ => Builder.greatest.nodes
    let events : List Run.Event := [.evaluate 0 {} ⟨.object, 1, none⟩]
    let run := (Run.start DataSet.seven.source).afterEvents programs events
    let other := Engine.of programs 1 {}
    run = Run.afterSeven ∧
      (∃ program, Run.Serves programs DataSet.seven.source events program 0 (.int32 7)) ∧
      ((other.evaluateAs .object 1 none).run run).1 = .error (.foreignProgram 0 1) ∧
      ((other.evaluateAs .object 1 none).run run).2.cache = run.cache ∧
      ((other.evaluateAs .object 0 (some 0)).run run).1 = .ok (.int32 7) := by
  have equal : (Run.start DataSet.seven.source).afterEvents (fun _ => Builder.greatest.nodes)
      [.evaluate 0 {} ⟨.object, 1, none⟩] = Run.afterSeven := by
    cbv
  intro programs events run other
  change run = Run.afterSeven at equal
  have held : run.cache.peek? (.aggregate 0) = some (.int32 7) := by
    rw [equal]
    rfl
  have isBound : run.program? = some 0 := by
    rw [equal]
    rfl
  rcases runs_serve_one_program programs DataSet.seven.source events with ⟨serves, others⟩
  have aggregate : other.VisitsAggregate (other.requested ⟨.object, 1, none⟩ run) :=
    ⟨_, 0, .self _, 1, .max, .field 0 0 .int32, .default, .int32, by cbv⟩
  rcases others 0 1 isBound (by decide) {} ⟨.object, 1, none⟩ with ⟨cache, _, refused, _⟩
  exact ⟨equal, serves 0 _ held, refused aggregate, cache, by rw [equal]; cbv⟩

end GroupedReport
