import GroupedReport.Proofs.Evaluation.Failures
import GroupedReport.Proofs.Expression.Aggregates
import GroupedReport.Proofs.Expression.Passes
import GroupedReport.Proofs.Expression.Unfolding

/-!
# Calls of a builder

What is made by calling the operations of a builder in any order, each on nodes that are there by
then. Nothing goes round in circles, and the key of an aggregate tells which call it goes back to:
folding makes more nodes with a key, but they are all the same up to folding.
-/

namespace GroupedReport

namespace Expression

/-! ## Calls -/

structure AggregateCall where
  function : AggregateFunction
  inner : NodeId
  scope : Scope
deriving Repr

namespace Build

inductive Call where
  | literal (value : Value)
  | null (kind : Kind)
  | field (column : Nat) (kind : Kind)
  | require (child : Option NodeId) (owner element : String) (kind : Kind)
  | unary (operator : UnaryOperator) (operand : NodeId)
  | binary (operator : BinaryOperator) (left right : NodeId)
  | arithmetic (operation : Arithmetic) (left right : NodeId)
  | negate (operand : NodeId)
  | aggregate (aggregate : AggregateCall)
  | fold (id : NodeId)
  /-- Leave another log. -/
  | log (log : Diagnostic.Log)

namespace Call

def ids : Call → List NodeId
  | literal _ | null _ | field _ _ | log _ => []
  | require child _ _ _ => child.toList
  | unary _ id | negate id | fold id => [id]
  | binary _ left right | arithmetic _ left right => [left, right]
  | aggregate call => [call.inner]

def perform (builder : Builder) : Call → Builder
  | literal value => ((Build.literal value).run builder).2
  | null kind => ((Build.null kind).run builder).2
  | field column kind => ((Build.field column kind).run builder).2
  | require child owner element kind => ((Build.require child owner element kind).run builder).2
  | unary operator operand => ((Build.unary operator operand).run builder).2
  | binary operator left right => ((Build.binary operator left right).run builder).2
  | arithmetic operation left right => ((Build.arithmetic operation left right).run builder).2
  | negate operand => ((Build.negate operand).run builder).2
  | aggregate call => ((Build.aggregate call.function call.inner call.scope).run builder).2
  | fold id => ((Build.fold id).run builder).2
  | log diagnostics => { builder with log := diagnostics }

def aggregate? : Call → Option AggregateCall
  | aggregate call => some call
  | _ => none

def Known (builder : Builder) (call : Call) : Prop :=
  ∀ id ∈ call.ids, id < builder.nodes.size

instance (builder : Builder) (call : Call) : Decidable (call.Known builder) :=
  inferInstanceAs (Decidable (∀ id ∈ call.ids, id < builder.nodes.size))

theorem step {builder : Builder} {call : Call} (known : call.Known builder) :
    builder.Step (call.perform builder) := by
  cases call with
  | literal value => exact .literal value
  | null kind => exact .null kind
  | field column kind => exact .field column kind
  | require child owner element kind =>
      exact .require child owner element kind fun id isChild =>
        known id (Option.mem_toList.mpr isChild)
  | unary operator operand => exact .unary operator operand (known operand List.mem_cons_self)
  | binary operator left right =>
      exact .binary operator left right (known left List.mem_cons_self)
        (known right (List.mem_cons_of_mem _ List.mem_cons_self))
  | arithmetic operation left right =>
      exact .arithmetic operation left right (known left List.mem_cons_self)
        (known right (List.mem_cons_of_mem _ List.mem_cons_self))
  | negate operand => exact .negate operand (known operand List.mem_cons_self)
  | aggregate call =>
      exact .aggregate call.function call.inner call.scope (known call.inner List.mem_cons_self)
  | fold id => exact .fold id (known id List.mem_cons_self)
  | log diagnostics => exact .log diagnostics

end Call

def perform (builder : Builder) (calls : List Call) : Builder :=
  calls.foldl Call.perform builder

def Admissible (builder : Builder) : List Call → Prop
  | [] => True
  | call :: rest => call.Known builder ∧ Admissible (call.perform builder) rest

instance decidableAdmissible :
    (builder : Builder) → (calls : List Call) → Decidable (Admissible builder calls)
  | _, [] => inferInstanceAs (Decidable True)
  | builder, call :: rest =>
      have := decidableAdmissible (call.perform builder) rest
      inferInstanceAs (Decidable (call.Known builder ∧ Admissible (call.perform builder) rest))

def aggregateCalls (calls : List Call) : List AggregateCall :=
  calls.filterMap Call.aggregate?

end Build

theorem AggregateCall.getElem?_concat {calls : List AggregateCall} {call other : AggregateCall}
    {key : AggregateKey} :
    (calls ++ [call])[key]? = some other ↔
      calls[key]? = some other ∨ key = calls.length ∧ call = other := by
  rw [List.getElem?_append]
  split
  · rename_i earlier
    simp [Nat.ne_of_lt earlier]
  · rename_i notEarlier
    have atLeast := Nat.le_of_not_lt notEarlier
    have isLast : key - calls.length = 0 ↔ key = calls.length := by
      rw [Nat.sub_eq_zero_iff_le]
      exact ⟨fun atMost => Nat.le_antisymm atMost atLeast, Nat.le_of_eq⟩
    rw [List.getElem?_eq_none atLeast, List.getElem?_singleton]
    simp [isLast]

/-! ## What aggregates go back to -/

/-- Whether a tree is another one or what that is folded to, apart from positions. -/
def Tree.ComesFrom (tree original : Tree) : Prop :=
  tree.bare = original.bare ∨ tree.bare = original.folded

theorem Tree.ComesFrom.of_folded {tree original result : Tree} (comes : tree.ComesFrom original)
    (bare : result.bare = tree.folded) : result.ComesFrom original := by
  refine .inr (bare.trans ?_)
  rcases comes with same | folds
  · rw [← folded_bare tree, same, folded_bare]
  · have normal : tree.IsNormal := by
      rw [← isNormal_bare, folds]
      exact isNormal_folded original
    rw [normal.folded_eq, folds]

namespace Builder

open Build (Call Places)

/-- Whether the aggregates of a builder go back to calls. A key counts the calls before its own,
which left a node of its own, and all nodes with the key have what was called for inside. -/
structure Remembers (builder : Builder) (calls : List AggregateCall) : Prop where
  nextKey : builder.nextKey = calls.length
  made {key : AggregateKey} {call : AggregateCall} : calls[key]? = some call →
    ∃ id : NodeId, builder.nodes[id]? = some (.aggregate call.function call.inner call.scope key
      (call.function.resultKind (builder.kind call.inner)))
  origin {id inner : NodeId} {function : AggregateFunction} {scope : Scope} {key : AggregateKey}
      {kind : Kind} : builder.nodes[id]? = some (.aggregate function inner scope key kind) →
    ∃ call, calls[key]? = some call ∧ (builder.tree inner).ComesFrom (builder.tree call.inner)
  keys : (Program.aggregatesFrom [] 0 builder.nodes.toList).map Prod.fst =
    List.range calls.length

def GoesBack (builder : Builder) (calls : List AggregateCall) : Node → Prop
  | .aggregate _ inner _ key _ => inner < builder.nodes.size ∧ ∃ call, calls[key]? = some call ∧
      (builder.tree inner).ComesFrom (builder.tree call.inner)
  | _ => True

theorem remembers_empty : Remembers {} [] where
  nextKey := rfl
  made found := by cases found
  origin found := by cases found
  keys := rfl

namespace Remembers

variable {builder : Builder} {calls : List AggregateCall} (remembers : builder.Remembers calls)
include remembers

theorem of_nodes {after : Builder} (nodes : after.nodes = builder.nodes)
    (nextKey : after.nextKey = builder.nextKey) : after.Remembers calls := by
  have trees : after.tree = builder.tree := by
    funext id
    rw [tree, tree, nodes]
  have kinds : after.kind = builder.kind := by
    funext id
    rw [kind, kind, nodes]
  constructor
  · exact nextKey.trans remembers.nextKey
  · rw [nodes, kinds]
    exact remembers.made
  · rw [nodes, trees]
    exact remembers.origin
  · rw [nodes]
    exact remembers.keys

variable (valid : builder.Valid)
include valid

theorem inner_lt {key : AggregateKey} {call : AggregateCall} (called : calls[key]? = some call) :
    call.inner < builder.nodes.size := by
  rcases remembers.made called with ⟨id, found⟩
  exact Nat.lt_trans (valid.child_lt found List.mem_cons_self) (lt_of_node found)

section

variable {after : Builder} (within : builder.Within after)
include within

theorem made_of_within {key : AggregateKey} {call : AggregateCall}
    (called : calls[key]? = some call) :
    ∃ id : NodeId, after.nodes[id]? = some (.aggregate call.function call.inner call.scope key
      (call.function.resultKind (after.kind call.inner))) := by
  rcases remembers.made called with ⟨id, found⟩
  rw [within.kind_eq (remembers.inner_lt valid called)]
  exact ⟨id, (within.node id (lt_of_node found)).trans found⟩

theorem comesFrom_of_within {inner : NodeId} {key : AggregateKey} {call : AggregateCall}
    (known : inner < builder.nodes.size) (called : calls[key]? = some call)
    (comes : (builder.tree inner).ComesFrom (builder.tree call.inner)) :
    (after.tree inner).ComesFrom (after.tree call.inner) := by
  rw [within.tree_eq known, within.tree_eq (remembers.inner_lt valid called)]
  exact comes

theorem origin_of_within {id inner : NodeId} {function : AggregateFunction} {scope : Scope}
    {key : AggregateKey} {kind : Kind}
    (found : builder.nodes[id]? = some (.aggregate function inner scope key kind)) :
    ∃ call, calls[key]? = some call ∧ (after.tree inner).ComesFrom (after.tree call.inner) := by
  rcases remembers.origin found with ⟨call, called, comes⟩
  have known := Nat.lt_trans (valid.child_lt found List.mem_cons_self) (lt_of_node found)
  exact ⟨call, called, remembers.comesFrom_of_within valid within known called comes⟩

end

theorem push {node : Node} (goesBack : builder.GoesBack calls node) :
    (builder.push node).Remembers calls where
  nextKey := remembers.nextKey
  made := remembers.made_of_within valid (within_push builder node)
  origin found := by
    rw [getElem?_push] at found
    split at found
    · cases found
      rcases goesBack with ⟨known, call, called, comes⟩
      exact ⟨call, called, remembers.comesFrom_of_within valid (within_push builder _) known
        called comes⟩
    · exact remembers.origin_of_within valid (within_push builder node) found
  keys := by
    rw [Builder.push, Array.toList_push, Program.aggregatesFrom_concat]
    cases node with
    | literal | field | unary | binary => exact remembers.keys
    | aggregate function inner scope key kind =>
        rcases goesBack with ⟨_, call, called, _⟩
        have known : key ∈ List.range calls.length :=
          List.mem_range.mpr (List.getElem?_eq_some_iff.mp called).choose
        dsimp only [Node.key?]
        rw [Program.map_fst_noteAggregate, remembers.keys, if_pos known]

theorem aggregate (call : AggregateCall) (known : call.inner < builder.nodes.size) :
    ((Build.aggregate call.function call.inner call.scope).run builder).2.Remembers
      (calls ++ [call]) := by
  let node : Node := .aggregate call.function call.inner call.scope builder.nextKey
    (call.function.resultKind (builder.kind call.inner))
  have left : ((Build.aggregate call.function call.inner call.scope).run builder).2 =
      { builder.push node with nextKey := builder.nextKey + 1 } := rfl
  have within : builder.Within
      ((Build.aggregate call.function call.inner call.scope).run builder).2 :=
    (puts_aggregate valid call.function call.scope known).within
  constructor
  · rw [left, List.length_append, List.length_singleton, ← remembers.nextKey]
  · intro key other called
    rcases AggregateCall.getElem?_concat.mp called with earlier | ⟨isLast, rfl⟩
    · exact remembers.made_of_within valid within earlier
    · refine ⟨builder.nodes.size, ?_⟩
      rw [within.kind_eq known, isLast, ← remembers.nextKey]
      exact getElem?_push_size builder node
  · intro id inner function scope key kind found
    rw [left] at found
    change (builder.push node).nodes[id]? = _ at found
    rw [getElem?_push] at found
    split at found
    · rcases Node.aggregate.inj (Option.some.inj found) with ⟨rfl, rfl, rfl, rfl, rfl⟩
      exact ⟨call, AggregateCall.getElem?_concat.mpr (.inr ⟨remembers.nextKey, rfl⟩), .inl rfl⟩
    · rcases remembers.origin_of_within valid within found with ⟨other, called, comes⟩
      exact ⟨other, AggregateCall.getElem?_concat.mpr (.inl called), comes⟩
  · have fresh : builder.nextKey ∉ List.range calls.length := by
      rw [remembers.nextKey, List.mem_range]
      exact Nat.lt_irrefl _
    rw [left, List.length_append, List.length_singleton, List.range_succ, ← remembers.keys,
      Builder.push, Array.toList_push, Program.aggregatesFrom_concat]
    dsimp only [node, Node.key?]
    rw [Program.map_fst_noteAggregate, remembers.keys, if_neg fresh, remembers.nextKey]

/-! ## Folding -/

theorem of_places {after : Builder} {id position : NodeId} {node : Node}
    (places : Places builder.nodes id node position after.nodes)
    (nextKey : after.nextKey = builder.nextKey)
    (goesBack : builder.GoesBack calls node) : after.Remembers calls := by
  generalize equal : after.nodes = nodes at places
  cases places with
  | operand | stays => exact remembers.of_nodes equal nextKey
  | constant value kind =>
      have pushed : (builder.push (.literal value kind)).Remembers calls :=
        remembers.push valid trivial
      exact pushed.of_nodes equal nextKey
  | added => exact (remembers.push valid goesBack).of_nodes equal nextKey

end Remembers

theorem Remembers.of_foldsTo {builder : Builder} {calls : List AggregateCall}
    (remembers : builder.Remembers calls) (valid : builder.Valid) {id : NodeId}
    {result : NodeId × Builder} (folds : Build.FoldsTo id builder result)
    (known : id < builder.nodes.size) : result.2.Remembers calls := by
  have notes := (valid.notes_of_foldsTo folds known).nextKey_eq
  induction folds with
  | literal | field => exact remembers
  | @unary _ id operand operator folded found folds induction =>
      have operandKnown := Nat.lt_trans (valid.node found) known
      have operandPuts := valid.puts_of_foldsTo folds operandKnown
      have operandNotes := (valid.notes_of_foldsTo folds operandKnown).nextKey_eq
      have still := (operandPuts.within.node id known).trans found
      exact (induction remembers valid operandKnown operandNotes).of_places operandPuts.valid
        (places_foldUnary still folded.1) (notes.trans operandNotes.symm) trivial
  | @binary _ id left right operator foldedLeft foldedRight found leftFolds rightFolds
      leftInduction rightInduction =>
      rcases valid.node found with ⟨leftBelow, rightBelow⟩
      have leftKnown := Nat.lt_trans leftBelow known
      have leftPuts := valid.puts_of_foldsTo leftFolds leftKnown
      have leftNotes := (valid.notes_of_foldsTo leftFolds leftKnown).nextKey_eq
      have rightKnown := leftPuts.within.known (Nat.lt_trans rightBelow known)
      have rightPuts := leftPuts.valid.puts_of_foldsTo rightFolds rightKnown
      have rightNotes := (leftPuts.valid.notes_of_foldsTo rightFolds rightKnown).nextKey_eq
      have still := ((leftPuts.within.trans rightPuts.within).node id known).trans found
      have leftRemembers := leftInduction remembers valid leftKnown leftNotes
      exact (rightInduction leftRemembers leftPuts.valid rightKnown rightNotes).of_places
        rightPuts.valid (places_foldBinary still foldedLeft.1 foldedRight.1)
        (notes.trans (rightNotes.trans leftNotes).symm) trivial
  | @aggregate _ id inner function scope key kind folded found folds induction =>
      have innerKnown := Nat.lt_trans (valid.node found).1 known
      have innerPuts := valid.puts_of_foldsTo folds innerKnown
      have innerNotes := (valid.notes_of_foldsTo folds innerKnown).nextKey_eq
      have still := (innerPuts.within.node id known).trans found
      have innerRemembers := induction remembers valid innerKnown innerNotes
      have unchanged (same : (folded.1 == inner) = true) :
          folded.2.nodes[id]? = some (.aggregate function folded.1 scope key kind) := by
        rw [eq_of_beq same]
        exact still
      -- What is folded now came from the call, and folding it leads to nothing new.
      rcases innerRemembers.origin still with ⟨call, called, comes⟩
      have bare := innerPuts.bare
      rw [← innerPuts.within.tree_eq innerKnown] at bare
      exact innerRemembers.of_places innerPuts.valid (places_rebuild unchanged)
        (notes.trans innerNotes.symm) ⟨innerPuts.known, call, called, comes.of_folded bare⟩

/-! ## Any number of calls -/

theorem Remembers.perform {builder : Builder} {calls : List AggregateCall}
    (remembers : builder.Remembers calls) (valid : builder.Valid) {call : Call}
    (known : call.Known builder) :
    (call.perform builder).Remembers (calls ++ call.aggregate?.toList) := by
  have null (kind : Kind) : ((Build.null kind).run builder).2.Remembers calls :=
    remembers.push valid trivial
  have reported (diagnostic : Diagnostic) (kind : Kind) :
      ((do Build.report diagnostic; Build.null kind : Build NodeId).run builder).2.Remembers
        calls :=
    (null kind).of_nodes rfl rfl
  have others (notCalled : call.aggregate? = none)
      (still : (call.perform builder).Remembers calls) :
      (call.perform builder).Remembers (calls ++ call.aggregate?.toList) := by
    rw [notCalled, Option.toList_none, List.append_nil]
    exact still
  cases call with
  | aggregate call => exact remembers.aggregate valid call (known call.inner List.mem_cons_self)
  | literal | null | field | unary | binary =>
      exact others rfl (remembers.push valid trivial)
  | log diagnostics => exact others rfl (remembers.of_nodes rfl rfl)
  | fold id =>
      have idKnown := known id List.mem_cons_self
      exact others rfl (remembers.of_foldsTo valid (valid.foldsTo idKnown) idKnown)
  | require child owner element kind =>
      apply others rfl
      cases child with
      | none => exact reported _ kind
      | some id => exact remembers
  | arithmetic operation left right =>
      apply others rfl
      rw [Call.perform, Build.arithmetic, run_kind_bind, run_kind_bind]
      split
      · exact remembers.push valid trivial
      · exact reported _ .object
  | negate operand =>
      apply others rfl
      rw [Call.perform, Build.negate, run_kind_bind]
      split
      · exact remembers.push valid trivial
      · exact reported _ .object

theorem remembers_perform {builder : Builder} (valid : builder.Valid)
    {earlier : List AggregateCall} (remembers : builder.Remembers earlier) {calls : List Call}
    (admissible : Build.Admissible builder calls) :
    (Build.perform builder calls).Valid ∧
      (Build.perform builder calls).Remembers (earlier ++ Build.aggregateCalls calls) := by
  induction calls generalizing builder earlier with
  | nil =>
      rw [Build.aggregateCalls, List.filterMap_nil, List.append_nil]
      exact ⟨valid, remembers⟩
  | cons call rest induction =>
      rcases admissible with ⟨known, restAdmissible⟩
      have restRemembers := induction ((Call.step known).sound valid).1
        (remembers.perform valid known) restAdmissible
      rw [List.append_assoc] at restRemembers
      have calls : Build.aggregateCalls (call :: rest) =
          call.aggregate?.toList ++ Build.aggregateCalls rest := by
        rw [Build.aggregateCalls, Build.aggregateCalls, List.filterMap_cons]
        cases call.aggregate? <;> rfl
      rw [calls]
      exact restRemembers

/-! ## What all builders have in common -/

/-- Whether all that goes from a node to its operands comes to an end, over known nodes alone. What
is dumped and what is evaluated is the tree of the node. -/
structure Ends (builder : Builder) (id : NodeId) : Prop where
  unfolds : Unfolds builder.nodes id (builder.tree id)
  folds : Build.FoldsTo id builder ((Build.fold id).run builder)
  walks (number : ProgramId) :
    Walks builder.nodes [id] ((Program.ofBuilder number builder).keysWithin id)
  /-- Nothing is unknown to evaluations, unless the data says so. -/
  evaluates (number : ProgramId) (options : Options) (row? : Option RowId) {run : Run} :
    (∀ row column other, run.data.value row column ≠ .error (.unknownNode other)) →
      ∀ other, (((builder.engine number options).native id row?).run run).1 ≠
        .error (.unknownNode other)

/-- What holds of a builder that was made by calls, given the aggregates that were called for. -/
structure SoundFor (builder : Builder) (calls : List AggregateCall) : Prop where
  child_lt {id child : NodeId} {node : Node} :
    builder.nodes[id]? = some node → child ∈ node.children → child < id
  ends {id : NodeId} : id < builder.nodes.size → builder.Ends id
  agree {first second : NodeId} {function other : AggregateFunction} {inner otherInner : NodeId}
      {scope otherScope : Scope} {key : AggregateKey} {kind otherKind : Kind} :
    builder.nodes[first]? = some (.aggregate function inner scope key kind) →
      builder.nodes[second]? = some (.aggregate other otherInner otherScope key otherKind) →
        function = other ∧ scope = otherScope ∧ kind = otherKind
  /-- An aggregate goes back to the call that its key counts: the node of that call is there, and
  what is inside of the aggregate comes from what was called for. -/
  origin {id inner : NodeId} {function : AggregateFunction} {scope : Scope} {key : AggregateKey}
      {kind : Kind} : builder.nodes[id]? = some (.aggregate function inner scope key kind) →
    ∃ called own : NodeId, calls[key]? = some ⟨function, called, scope⟩ ∧
      builder.nodes[own]? = some (.aggregate function called scope key kind) ∧
        (builder.tree inner).ComesFrom (builder.tree called)
  inside_lt {id inner inside : NodeId} {function : AggregateFunction} {scope : Scope}
      {key other : AggregateKey} {kind : Kind} {node : Node} :
    builder.nodes[id]? = some (.aggregate function inner scope key kind) →
      builder.Reaches inner inside → builder.nodes[inside]? = some node →
        node.key? = some other → other < key
  keys (number : ProgramId) :
    (Program.ofBuilder number builder).aggregates.map Prod.fst = List.range calls.length
  newest (number : ProgramId) {key : AggregateKey} {id : NodeId} :
    (key, id) ∈ (Program.ofBuilder number builder).aggregates →
      Program.IsNewest builder.nodes.toList key id

variable {builder : Builder}

theorem admits_of_unfolds {nodes : Array Node} {id : NodeId} {tree : Tree}
    (unfolds : Unfolds nodes id tree) {data : DataSource} {admitted : EvaluationError → Prop}
    (reads : ∀ row column, Evaluate.FailsOnly admitted (data.value row column)) :
    tree.Admits data (fun _ => True) admitted := by
  induction unfolds with
  | literal => trivial
  | field => exact fun row _ => reads row _
  | unary _ _ induction => exact induction
  | binary _ _ _ leftInduction rightInduction => exact ⟨leftInduction, rightInduction⟩
  | aggregate _ _ induction => exact induction

theorem evaluates_of_unfolds {builder : Builder} {id : NodeId}
    (unfolds : Unfolds builder.nodes id (builder.tree id)) (number : ProgramId) (options : Options)
    (row? : Option RowId) {run : Run}
    (reads : ∀ row column other, run.data.value row column ≠ .error (.unknownNode other))
    (other : NodeId) :
    (((builder.engine number options).native id row?).run run).1 ≠ .error (.unknownNode other) := by
  let admitted (error : EvaluationError) : Prop := ∀ other, error ≠ .unknownNode other
  have runs : (builder.engine number options).Runs run.data (fun _ => True)
      (fun later => later.data = run.data) admitted :=
    { steady := fun alike _ equal => alike.data.trans equal
      source := fun equal => equal
      stored := fun _ _ equal => equal
      covered := fun _ _ _ => trivial
      ofValues := by
        rintro _ ofValues other rfl
        exact ofValues
      foreign := by
        intro later error _ fails other equal
        rcases Run.eq_foreignProgram_of_bindTo fails with ⟨bound, isForeign⟩
        rw [equal] at isForeign
        cases isForeign }
  have admits : (builder.tree id).Admits run.data (fun _ => True) admitted := by
    apply admits_of_unfolds unfolds
    rintro row column _ fails other rfl
    exact reads row column other fails
  intro fails
  exact (runs.ensures_evaluateTree admits (fun _ _ => trivial) run rfl).1 _ fails other rfl

theorem Valid.ends (valid : builder.Valid) {id : NodeId} (known : id < builder.nodes.size) :
    builder.Ends id where
  unfolds := valid.unfolds known
  folds := valid.foldsTo known
  walks _ := valid.walks (List.forall_mem_singleton.mpr known)
  evaluates := evaluates_of_unfolds (valid.unfolds known)

theorem Remembers.soundFor {calls : List AggregateCall} (remembers : builder.Remembers calls)
    (valid : builder.Valid) : builder.SoundFor calls where
  child_lt := valid.child_lt
  ends := valid.ends
  agree := valid.agree
  origin {id inner function scope key kind} found := by
    rcases remembers.origin found with ⟨call, called, comes⟩
    rcases remembers.made called with ⟨own, made⟩
    rcases valid.agree made found with ⟨rfl, rfl, rfl⟩
    exact ⟨call.inner, own, called, made, comes⟩
  inside_lt := valid.key_lt_of_reaches
  keys _ := remembers.keys
  newest _ _ _ member := Program.isNewest_of_mem _ member

end Builder

end Expression

open Expression

/-- Whatever operations of a builder are called, in any order and on any nodes that are there by
then: operands come before their nodes, so that recursions over them end, and keys of aggregates
count the calls that the aggregates go back to. -/
theorem calls_leave_sound_builder {calls : List Build.Call}
    (admissible : Build.Admissible {} calls) :
    (Build.perform {} calls).SoundFor (Build.aggregateCalls calls) := by
  rcases Builder.remembers_perform Builder.valid_empty Builder.remembers_empty admissible with
    ⟨valid, remembers⟩
  exact remembers.soundFor valid

namespace Expression.Build

def nestedCalls : List Call :=
  [.field 0 .int32, .literal (.int32 0), .arithmetic .plus 0 1, .aggregate ⟨.max, 2, .default⟩,
    .aggregate ⟨.stdevp, 3, .default⟩, .fold 4]

end Expression.Build

open Build in
/-- Two nodes are added when the nested aggregates are folded, and both have the keys of their
calls. -/
theorem nested_calls_leave_sound_builder :
    Admissible {} nestedCalls ∧
      (perform {} nestedCalls).SoundFor [⟨.max, 2, .default⟩, ⟨.stdevp, 3, .default⟩] ∧
      (Program.ofBuilder 0 (perform {} nestedCalls)).aggregates = [(0, 5), (1, 6)] := by
  have admissible : Admissible {} nestedCalls := by decide +kernel
  exact ⟨admissible, calls_leave_sound_builder admissible, by decide +kernel⟩

end GroupedReport
