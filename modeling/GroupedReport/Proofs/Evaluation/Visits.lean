import GroupedReport.Proofs.Evaluation.Reached

/-!
# Visits of an evaluation

An evaluation visits the operands of its tree, and those of an aggregate in every row that it goes
through. Each visit begins in the run that the visits before it left. What is kept after an
evaluation was kept before, or it was stored when an aggregate was visited.
-/

namespace GroupedReport

open Expression

/-- The evaluation of a tree in a row, or outside of any row, that begins in a run. -/
structure Visit where
  tree : Tree
  row? : Option RowId
  run : Run

namespace Visit

def outcome (engine : Engine) (visit : Visit) : Except EvaluationError Value × Run :=
  (engine.evaluateTree visit.tree visit.row?).run visit.run

def IsOfAggregate (visit : Visit) (key : AggregateKey) : Prop :=
  ∃ id function inner scope kind, visit.tree = .aggregate id function inner scope key kind

end Visit

/-- Whether an evaluation comes to a visit: the visit itself, or one of an operand. An operand of
an aggregate is visited in a row of the extent if no value is kept and the rows before it were
gone through without an error. -/
inductive Engine.Visits (engine : Engine) : Visit → Visit → Prop
  | self (visit : Visit) : Visits engine visit visit
  | operand {id : NodeId} {operator : UnaryOperator} {operand : Tree} {row? : Option RowId}
      {run : Run} {last : Visit} :
      Visits engine ⟨operand, row?, run⟩ last →
        Visits engine ⟨.unary id operator operand, row?, run⟩ last
  | left {id : NodeId} {operator : BinaryOperator} {left right : Tree} {row? : Option RowId}
      {run : Run} {last : Visit} :
      Visits engine ⟨left, row?, run⟩ last →
        Visits engine ⟨.binary id operator left right, row?, run⟩ last
  | right {id : NodeId} {operator : BinaryOperator} {left right : Tree} {row? : Option RowId}
      {run between : Run} {value : Value} {last : Visit} :
      (engine.evaluateTree left row?).run run = (.ok value, between) →
        Visits engine ⟨right, row?, between⟩ last →
          Visits engine ⟨.binary id operator left right, row?, run⟩ last
  | inner {id : NodeId} {function : AggregateFunction} {inner : Tree} {scope : Scope}
      {key : AggregateKey} {kind : Kind} {row? : Option RowId} {run bound between : Run}
      {extent : Extent} {earlier later : List RowId} {row : RowId} {value : Value} {last : Visit} :
      run.bindTo engine.program.id = .ok bound →
        bound.data.extent? scope row? = some extent → engine.kept? bound key = none →
          extent.rows = earlier ++ row :: later →
            (Aggregate.reduce function (fun row => engine.evaluateTree inner (some row))
              earlier).run (engine.searched bound key) = (.ok value, between) →
              Visits engine ⟨inner, some row, between⟩ last →
                Visits engine ⟨.aggregate id function inner scope key kind, row?, run⟩ last

def Engine.VisitsAggregate (engine : Engine) (first : Visit) : Prop :=
  ∃ last key, engine.Visits first last ∧ last.IsOfAggregate key

/-! ## Reductions, row by row -/

theorem Evaluate.run_foldlM_append (step : β → RowId → Evaluate β) (rows : List RowId)
    (row : RowId) (state : β) (run : Run) :
    ((rows ++ [row]).foldlM step state).run run =
      match (rows.foldlM step state).run run with
      | (.ok next, between) => (step next row).run between
      | (.error error, after) => (.error error, after) := by
  rw [List.foldlM_append, run_bind]
  rcases (rows.foldlM step state).run run with ⟨_ | next, between⟩
  · rfl
  · dsimp only
    rw [List.foldlM_cons]
    exact congrArg (fun action : Evaluate β => action.run between) (bind_pure (step next row))

namespace Aggregate

theorem run_reduce_append (function : AggregateFunction) (inner : RowId → Evaluate Value)
    (rows : List RowId) (row : RowId) (run : Run) :
    ((reduce function inner (rows ++ [row])).run run).2 =
      match (reduce function inner rows).run run with
      | (.ok _, between) => ((inner row).run between).2
      | (.error _, after) => after := by
  rw [run_reduce, run_reduce, Evaluate.run_foldlM_append]
  rcases (rows.foldlM (takeRow function inner) function.reduction.start).run run with
    ⟨_ | state, between⟩
  · rfl
  · dsimp only [Except.map]
    rw [takeRow, Evaluate.run_bind]
    rcases (inner row).run between with ⟨_ | item, after⟩
    · rfl
    · exact congrArg Prod.snd (Evaluate.run_ofResult _ after)

theorem reduce_brings (holds : Run → Prop) {function : AggregateFunction}
    {inner : RowId → Evaluate Value} {rows : List RowId} {run : Run}
    (after : holds ((reduce function inner rows).run run).2) :
    holds run ∨ ∃ earlier row later value between, rows = earlier ++ row :: later ∧
      (reduce function inner earlier).run run = (.ok value, between) ∧ ¬holds between ∧
      holds ((inner row).run between).2 := by
  induction rows using List.reverseRecOn with
  | nil =>
      left
      cases function <;> exact after
  | append_singleton rows row induction =>
      have further : holds ((reduce function inner rows).run run).2 → holds run ∨
          ∃ earlier other later value between, rows ++ [row] = earlier ++ other :: later ∧
            (reduce function inner earlier).run run = (.ok value, between) ∧ ¬holds between ∧
            holds ((inner other).run between).2 := by
        intro before
        rcases induction before with start | ⟨earlier, other, later, value, between, equal, rest⟩
        · exact .inl start
        · refine .inr ⟨earlier, other, later ++ [row], value, between, ?_, rest⟩
          rw [equal, List.append_assoc, List.cons_append]
      rw [run_reduce_append] at after
      rcases reduced : (reduce function inner rows).run run with ⟨_ | value, between⟩
      · rw [reduced] at after further
        exact further after
      · rw [reduced] at after further
        by_cases before : holds between
        · exact further before
        · exact .inr ⟨rows, row, [], value, between, rfl, reduced, before, after⟩

theorem reduce_keeps (holds : Run → Prop) {inner : RowId → Evaluate Value}
    (each : ∀ row run, holds run → holds ((inner row).run run).2) (function : AggregateFunction)
    (rows : List RowId) {run : Run} (before : holds run) :
    holds ((reduce function inner rows).run run).2 := by
  by_contra broken
  rcases reduce_brings (fun run => ¬holds run) broken with
    already | ⟨_, row, _, _, between, _, _, held, lost⟩
  · exact already before
  · exact lost (each row between (not_not.mp held))

end Aggregate

/-! ## What an evaluation stores -/

namespace Engine

variable (engine : Engine)

theorem ensures_invariant {invariant : Run → Prop}
    (steady : Run.Steady engine.program.id invariant)
    (stored : ∀ (run : Run) (key : AggregateKey) (value : Value), invariant run →
      invariant { run with cache := run.cache.store (.aggregate key) value })
    (tree : Tree) (row? : Option RowId) :
    (engine.evaluateTree tree row?).Ensures invariant fun _ => True := by
  induction tree generalizing row? with
  | unknown id => exact Evaluate.ensures_throw trivial
  | literal id value kind => exact Evaluate.ensures_pure trivial
  | field id column kind =>
      cases row? with
      | none => exact Evaluate.ensures_pure trivial
      | some row =>
          have reads : (Evaluate.read row column).Ensures invariant fun _ => True :=
            Evaluate.ensures_read steady fun _ _ => trivial
          exact reads.bind (fun _ _ => trivial) fun _ _ => Evaluate.ensures_conversion trivial
  | unary id operator operand induction =>
      exact (induction row?).bind (fun _ _ => trivial) fun _ _ => Evaluate.ensures_operator trivial
  | binary id operator left right leftInduction rightInduction =>
      exact (leftInduction row?).bind (fun _ _ => trivial) fun _ _ =>
        (rightInduction row?).bind (fun _ _ => trivial) fun _ _ =>
          Evaluate.ensures_operator trivial
  | aggregate id function inner scope key kind induction =>
      apply Evaluate.ensures_aggregate steady
      · exact fun _ _ _ _ => trivial
      · exact fun _ _ _ => trivial
      · exact fun _ _ _ _ _ _ _ => trivial
      · intro _ extent _ _ run kept
        refine ⟨trivial, Aggregate.reduce_keeps invariant ?_ function extent.rows kept⟩
        exact fun row run kept => (induction (some row) run kept).2
      · exact fun _ after _ value _ _ _ _ kept _ => stored after key value kept

theorem ensures_data (data : DataSource) (tree : Tree) (row? : Option RowId) :
    (engine.evaluateTree tree row?).Ensures (fun run => run.data = data) fun _ => True :=
  engine.ensures_invariant (fun alike _ same => alike.data.trans same) (fun _ _ _ same => same) tree
    row?

theorem program?_evaluateTree (tree : Tree) (row? : Option RowId) {run : Run}
    {program : ProgramId} (bound : run.program? = some program) :
    ((engine.evaluateTree tree row?).run run).2.program? = some program := by
  have steady : Run.Steady engine.program.id fun run => run.program? = some program :=
    fun alike _ bound => alike.program bound
  exact (engine.ensures_invariant steady (fun _ _ _ bound => bound) tree row? run bound).2

/-- Whether a visit puts its own value under a key that no value was kept under. -/
structure Stores (visit : Visit) (key : AggregateKey) (value : Value) : Prop where
  absent : visit.run.cache.peek? (.aggregate key) = none
  gives : (visit.outcome engine).1 = .ok value
  held : (visit.outcome engine).2.cache.peek? (.aggregate key) = some value

/-- Whether an evaluation comes to an aggregate whose value it stores, and binds the run to its
program. -/
structure Brings (first : Visit) (key : AggregateKey) (value : Value) : Prop where
  visit : ∃ last, engine.Visits first last ∧ last.IsOfAggregate key ∧ engine.Stores last key value
  bound : (first.outcome engine).2.program? = some engine.program.id

variable {engine} {key : AggregateKey} {value : Value}

theorem program?_settle (extent : Extent) (key : AggregateKey)
    (result : Except EvaluationError Value × Run) :
    (engine.settle extent key result).2.program? = result.2.program? := by
  rcases result with ⟨_ | value, after⟩
  · rfl
  · rw [settle]
    split <;> rfl

section

variable {id : NodeId} {function : AggregateFunction} {inner : Tree} {scope : Scope}
  {own : AggregateKey} {kind : Kind} {row? : Option RowId} {run bound : Run}

theorem program?_outcome (binds : run.bindTo engine.program.id = .ok bound) :
    (Visit.outcome engine ⟨.aggregate id function inner scope own kind, row?, run⟩).2.program? =
      some engine.program.id := by
  have boundProgram := (Run.alike_bindTo binds).2
  rw [Visit.outcome, evaluateTree, Aggregate.run_evaluate, binds]
  dsimp only
  split
  · exact boundProgram
  · rename_i extent _
    have searchedProgram := (bound.program?_searched engine own).trans boundProgram
    split
    · exact searchedProgram
    · rw [program?_settle]
      exact Aggregate.reduce_keeps (fun run => run.program? = some engine.program.id)
        (fun row run bound => engine.program?_evaluateTree inner (some row) bound) function
        extent.rows searchedProgram

theorem kept_or_settled {extent : Extent} {result : Except EvaluationError Value × Run}
    (held : (engine.settle extent own result).2.cache.peek? (.aggregate key) = some value) :
    result.2.cache.peek? (.aggregate key) = some value ∨
      own = key ∧ engine.options.cacheAggregates = true ∧
        (engine.settle extent own result).1 = .ok value := by
  rcases result with ⟨_ | given, after⟩
  · exact .inl held
  · rw [settle] at held ⊢
    dsimp only at held ⊢
    split at held
    · rename_i keeps
      by_cases same : own = key
      · rw [same, Cache.peek?_store] at held
        cases held
        exact .inr ⟨same, (Bool.and_eq_true_iff.mp keeps).1, rfl⟩
      · rw [Cache.peek?_store_of_ne fun equal => same (Slot.aggregate.inj equal).symm] at held
        exact .inl held
    · exact .inl held

theorem kept_or_brought_aggregate
    (each : ∀ {row? run}, (Visit.outcome engine ⟨inner, row?, run⟩).2.cache.peek?
        (.aggregate key) = some value →
      run.cache.peek? (.aggregate key) = some value ∨ engine.Brings ⟨inner, row?, run⟩ key value)
    (held : (Visit.outcome engine
      ⟨.aggregate id function inner scope own kind, row?, run⟩).2.cache.peek? (.aggregate key) =
        some value) :
    run.cache.peek? (.aggregate key) = some value ∨
      engine.Brings ⟨.aggregate id function inner scope own kind, row?, run⟩ key value := by
  have outcome :
      Visit.outcome engine ⟨.aggregate id function inner scope own kind, row?, run⟩ = _ :=
    Aggregate.run_evaluate engine function (fun row => engine.evaluateTree inner (some row)) scope
      own row? run
  cases binds : run.bindTo engine.program.id with
  | error error =>
      rw [outcome, binds] at held
      exact .inl held
  | ok bound =>
      have boundAlike := (Run.alike_bindTo binds).1
      rw [binds] at outcome
      dsimp only at outcome
      cases covers : bound.data.extent? scope row? with
      | none =>
          rw [outcome, covers] at held
          dsimp only at held
          rw [boundAlike.peek?_eq] at held
          exact .inl held
      | some extent =>
          have searchedAlike := boundAlike.trans (bound.alike_searched engine own)
          rw [covers] at outcome
          dsimp only at outcome
          cases missing : engine.kept? bound own with
          | some kept =>
              rw [outcome, missing] at held
              dsimp only at held
              rw [searchedAlike.peek?_eq] at held
              exact .inl held
          | none =>
              -- The rows are gone through. The value came about in one of them, or it is the one
              -- that is stored at their end.
              rw [missing] at outcome
              dsimp only at outcome
              have settled := held
              rw [outcome] at settled
              rcases kept_or_settled settled with reduced | ⟨same, caching, gives⟩
              · rcases Aggregate.reduce_brings
                  (fun run => run.cache.peek? (.aggregate key) = some value) reduced
                  with before | ⟨earlier, row, later, given, between, equal, ran, lacked, after⟩
                · rw [searchedAlike.peek?_eq] at before
                  exact .inl before
                · rcases each after with before | brings
                  · exact absurd before lacked
                  · rcases brings.visit with ⟨last, visits, stores⟩
                    exact .inr ⟨⟨last, .inner binds covers missing equal ran visits, stores⟩,
                      program?_outcome binds⟩
              · rw [kept?, if_pos caching, boundAlike.peek?_eq, same] at missing
                rw [← outcome] at gives
                exact .inr ⟨⟨_, .self _, ⟨id, function, inner, scope, kind, by rw [same]⟩,
                  missing, gives, held⟩, program?_outcome binds⟩

end

section

variable {id : NodeId} {left right operand : Tree} {row? : Option RowId} {run between : Run}

theorem Brings.ofOperand {operator : UnaryOperator}
    (brings : engine.Brings ⟨operand, row?, run⟩ key value) :
    engine.Brings ⟨.unary id operator operand, row?, run⟩ key value := by
  rcases brings with ⟨⟨last, visits, stores⟩, bound⟩
  refine ⟨⟨last, .operand visits, stores⟩, ?_⟩
  rw [Visit.outcome, run_unary]
  exact bound

theorem Brings.ofLeft {operator : BinaryOperator}
    (brings : engine.Brings ⟨left, row?, run⟩ key value) :
    engine.Brings ⟨.binary id operator left right, row?, run⟩ key value := by
  rcases brings with ⟨⟨last, visits, stores⟩, bound⟩
  refine ⟨⟨last, .left visits, stores⟩, ?_⟩
  change ((engine.evaluateTree left row?).run run).2.program? = _ at bound
  rw [Visit.outcome, run_binary]
  rcases leftEqual : (engine.evaluateTree left row?).run run with ⟨_ | leftValue, between⟩ <;>
    rw [leftEqual] at bound
  · exact bound
  · exact engine.program?_evaluateTree right row? bound

theorem Brings.ofRight {operator : BinaryOperator} {leftValue : Value}
    (leftEqual : (engine.evaluateTree left row?).run run = (.ok leftValue, between))
    (brings : engine.Brings ⟨right, row?, between⟩ key value) :
    engine.Brings ⟨.binary id operator left right, row?, run⟩ key value := by
  rcases brings with ⟨⟨last, visits, stores⟩, bound⟩
  refine ⟨⟨last, .right leftEqual visits, stores⟩, ?_⟩
  rw [Visit.outcome, run_binary, leftEqual]
  exact bound

end

theorem kept_or_brought (tree : Tree) {row? : Option RowId} {run : Run}
    (held : (Visit.outcome engine ⟨tree, row?, run⟩).2.cache.peek? (.aggregate key) =
      some value) :
    run.cache.peek? (.aggregate key) = some value ∨
      engine.Brings ⟨tree, row?, run⟩ key value := by
  induction tree generalizing row? run with
  | unknown | literal => exact .inl held
  | field id column kind =>
      cases row? with
      | none => exact .inl held
      | some row =>
          rw [Visit.outcome, run_field] at held
          exact .inl held
  | unary id operator operand induction =>
      rw [Visit.outcome, run_unary] at held
      exact (induction held).imp_right .ofOperand
  | binary id operator left right leftInduction rightInduction =>
      rw [Visit.outcome, run_binary] at held
      have fromLeft := @leftInduction row? run
      rw [Visit.outcome] at fromLeft
      rcases leftEqual : (engine.evaluateTree left row?).run run with ⟨_ | leftValue, between⟩
      · rw [leftEqual] at held fromLeft
        exact (fromLeft held).imp_right .ofLeft
      · rw [leftEqual] at held fromLeft
        rcases rightInduction held with middle | brings
        · exact (fromLeft middle).imp_right .ofLeft
        · exact .inr (brings.ofRight leftEqual)
  | aggregate id function inner scope own kind induction =>
      exact kept_or_brought_aggregate induction held

end Engine

/-! ## Nodes that are visited -/

namespace Expression.Tree

variable {nodes : Array Node}

/-- Whether a tree is that of a node, or stands for a node that is no operand. -/
def IsOfNode (nodes : Array Node) (tree : Tree) : Prop :=
  tree = .ofNodes nodes tree.id ∨ tree = .unknown tree.id

theorem isOfNode_ofNodes (nodes : Array Node) (id : NodeId) :
    (ofNodes nodes id).IsOfNode nodes := by
  rw [IsOfNode, id_ofNodes]
  exact .inl rfl

theorem isOfNode_operand (nodes : Array Node) (id operand : NodeId) :
    (if operand < id then ofNodes nodes operand else unknown operand).IsOfNode nodes := by
  split
  · exact isOfNode_ofNodes nodes operand
  · exact .inr rfl

section

variable {id : NodeId}

theorem IsOfNode.operand {operator : UnaryOperator} {operand : Tree}
    (ofNode : (unary id operator operand).IsOfNode nodes) : operand.IsOfNode nodes := by
  rcases ofNode with equal | equal
  · rw [ofNodes] at equal
    split at equal
    case h_4 =>
      rw [(unary.inj equal).2.2]
      exact isOfNode_operand ..
    all_goals cases equal
  · cases equal

theorem IsOfNode.operands {operator : BinaryOperator} {left right : Tree}
    (ofNode : (binary id operator left right).IsOfNode nodes) :
    left.IsOfNode nodes ∧ right.IsOfNode nodes := by
  rcases ofNode with equal | equal
  · rw [ofNodes] at equal
    split at equal
    case h_5 =>
      rcases binary.inj equal with ⟨_, _, leftEqual, rightEqual⟩
      rw [leftEqual, rightEqual]
      exact ⟨isOfNode_operand .., isOfNode_operand ..⟩
    all_goals cases equal
  · cases equal

variable {function : AggregateFunction} {inner : Tree} {scope : Scope} {key : AggregateKey}
  {kind : Kind}

theorem IsOfNode.innerTree (ofNode : (aggregate id function inner scope key kind).IsOfNode nodes) :
    inner.IsOfNode nodes := by
  rcases ofNode with equal | equal
  · rw [ofNodes] at equal
    split at equal
    case h_6 =>
      rw [(aggregate.inj equal).2.2.1]
      exact isOfNode_operand ..
    all_goals cases equal
  · cases equal

theorem IsOfNode.aggregate (ofNode : (aggregate id function inner scope key kind).IsOfNode nodes) :
    aggregate id function inner scope key kind = ofNodes nodes id ∧
      ∃ operand, nodes[id]? = some (.aggregate function operand scope key kind) := by
  rcases ofNode with equal | equal
  · refine ⟨equal, ?_⟩
    rw [ofNodes] at equal
    split at equal
    case h_6 found =>
      rcases aggregate.inj equal with ⟨_, rfl, _, rfl, rfl, rfl⟩
      exact ⟨_, found⟩
    all_goals cases equal
  · cases equal

end

end Expression.Tree

theorem Engine.Visits.isOfNode {engine : Engine} {nodes : Array Node} {first last : Visit}
    (visits : engine.Visits first last) (ofNode : first.tree.IsOfNode nodes) :
    last.tree.IsOfNode nodes := by
  induction visits with
  | self => exact ofNode
  | operand _ induction => exact induction ofNode.operand
  | left _ induction => exact induction ofNode.operands.1
  | right _ _ induction => exact induction ofNode.operands.2
  | inner _ _ _ _ _ _ induction => exact induction ofNode.innerTree

theorem Run.Reached.data_eq {program : Program} {data : DataSource} {run : Run}
    (reached : run.Reached program data) : run.data = data := by
  induction reached with
  | start => rfl
  | step _ step induction =>
      cases step with
      | evaluate options kind id row? =>
          rw [Engine.run_evaluateAs_snd]
          exact (Engine.ensures_data _ data _ row? _ induction).2
      | cross boundary => exact (data_cross _ boundary).trans induction
      | invalidate | reset | setWorkState => exact induction

end GroupedReport
