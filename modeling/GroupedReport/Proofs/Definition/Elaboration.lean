import GroupedReport.Definition.Build
import GroupedReport.Proofs.Expression.Building
import Mathlib.Data.List.Forall2

/-!
# Formulas that are built as written

Building never fails, and what makes no sense is degraded. Where no error is reported, nothing was
degraded: the nodes that were added are those of the formula, one for each of its elements, and the
tree of the root is the formula with its names resolved. A null among the nodes was written as one.
-/

namespace GroupedReport

open Expression

/-! ## What a tree has to be -/

namespace Formula

/-- Whether an operator is the right one for an operation on operands of two kinds. -/
inductive Operation.Chooses : Operation → Kind → Kind → BinaryOperator → Prop
  | numeric {operation : Arithmetic} {left right : Kind} {numeric : NumericKind} :
      left.promote? right = some numeric.kind →
        Chooses (.arithmetic operation) left right (.arithmetic operation numeric)
  | text {left right : Kind} : left = .string ∨ right = .string →
      Chooses (.arithmetic .plus) left right .concat
  | compare {comparison : Comparison} {left right : Kind} :
      Chooses (.compare comparison) left right (.compare comparison)
  | and {left right : Kind} : Chooses .and left right .and
  | or {left right : Kind} : Chooses .or left right .or

inductive UnaryOperation.Chooses : UnaryOperation → Kind → UnaryOperator → Prop
  | negate {operand : Kind} {numeric : NumericKind} : operand = numeric.kind →
      Chooses .negate operand (.negate numeric)
  | not {operand : Kind} : Chooses .not operand .not

theorem UnaryOperation.Chooses.of_negate? {operand : Kind} {operator : UnaryOperator}
    (chosen : UnaryOperator.negate? operand = some operator) :
    UnaryOperation.negate.Chooses operand operator := by
  rcases Option.map_eq_some_iff.mp chosen with ⟨numeric, ofKind, rfl⟩
  exact .negate (NumericKind.kind_of_ofKind? ofKind)

theorem Operation.Chooses.of_arithmeticOperator? {operation : Arithmetic} {left right : Kind}
    {operator : BinaryOperator}
    (chosen : Build.arithmeticOperator? operation left right = some operator) :
    (Operation.arithmetic operation).Chooses left right operator := by
  rw [Build.arithmeticOperator?] at chosen
  split at chosen
  · rename_i sum
    cases chosen
    rw [sum.1]
    exact .text sum.2
  · rcases Option.bind_eq_some_iff.mp chosen with ⟨kind, promoted, computes⟩
    rcases Option.map_eq_some_iff.mp computes with ⟨numeric, ofKind, rfl⟩
    rw [NumericKind.kind_of_ofKind? ofKind] at promoted
    exact .numeric promoted

/-- Whether a tree is what a formula says, with all of its operands there and all names known. -/
inductive Represents (fields : Fields) : Formula → Tree → Prop
  | literal {value : Json.Canonical} {id : NodeId} : Represents fields (.literal value)
      (.literal id (Value.infer value.val) ((Value.infer value.val).kind?.getD .object))
  | typed {value : Json.Canonical} {typeName : String} {kind : Kind} {constant : Value}
      {id : NodeId} : Kind.ofName? typeName = some kind →
        Value.ofJson kind value.val = .ok constant →
          Represents fields (.typed value typeName) (.literal id constant kind)
  | field {name : String} {found : Field} {id : NodeId} : fields.get? name = some found →
      Represents fields (.field name) (.field id found.column found.kind)
  | unary {spelling : String} {operation : UnaryOperation} {operator : UnaryOperator}
      {operand : Formula} {tree : Tree} {id : NodeId} :
      UnaryOperation.ofSpelling? spelling = some operation →
        operation.Chooses tree.kind operator → Represents fields operand tree →
          Represents fields (.unary spelling (some operand)) (.unary id operator tree)
  | binary {spelling : String} {operation : Operation} {operator : BinaryOperator}
      {left right : Formula} {leftTree rightTree : Tree} {id : NodeId} :
      Operation.ofSpelling? spelling = some operation →
        operation.Chooses leftTree.kind rightTree.kind operator →
          Represents fields left leftTree → Represents fields right rightTree →
            Represents fields (.binary spelling (some left) (some right))
              (.binary id operator leftTree rightTree)
  | aggregate {spelling : String} {function : AggregateFunction} {inner : Formula} {tree : Tree}
      {scope : Scope} {id : NodeId} {key : AggregateKey} {kind : Kind} :
      AggregateFunction.ofName? spelling = some function → kind = function.resultKind tree.kind →
        Represents fields inner tree →
          Represents fields (.aggregate spelling (some inner) scope)
            (.aggregate id function tree scope key kind)

mutual

def elements : Formula → List Formula
  | .literal value => [.literal value]
  | .typed value typeName => [.typed value typeName]
  | .field name => [.field name]
  | .unary operator operand => operandElements operand ++ [.unary operator operand]
  | .binary operator left right =>
      operandElements left ++ operandElements right ++ [.binary operator left right]
  | .aggregate function inner scope => operandElements inner ++ [.aggregate function inner scope]

def operandElements : Option Formula → List Formula
  | none => []
  | some formula => elements formula

end

end Formula

inductive Form where
  | constant
  | field
  | unary
  | binary
  | aggregate
deriving DecidableEq, Repr

def Formula.form : Formula → Form
  | .literal _ | .typed _ _ => .constant
  | .field _ => .field
  | .unary _ _ => .unary
  | .binary _ _ _ => .binary
  | .aggregate _ _ _ => .aggregate

namespace Expression.Tree

def subtrees : Tree → List Tree
  | unknown id => [unknown id]
  | literal id value kind => [literal id value kind]
  | field id column kind => [field id column kind]
  | unary id operator operand => operand.subtrees ++ [unary id operator operand]
  | binary id operator left right =>
      left.subtrees ++ right.subtrees ++ [binary id operator left right]
  | aggregate id function inner scope key kind =>
      inner.subtrees ++ [aggregate id function inner scope key kind]

def form? : Tree → Option Form
  | unknown _ => none
  | literal _ _ _ => some .constant
  | field _ _ _ => some .field
  | unary _ _ _ => some .unary
  | binary _ _ _ _ => some .binary
  | aggregate _ _ _ _ _ _ => some .aggregate

end Expression.Tree

namespace Formula.Represents

variable {fields : Fields} {formula : Formula} {tree : Tree}

theorem form?_eq (represents : formula.Represents fields tree) :
    tree.form? = some formula.form := by
  cases represents <;> rfl

theorem of_null {id : NodeId} {kind : Kind}
    (represents : formula.Represents fields (.literal id .null kind)) :
    ∃ value : Json.Canonical, value.val = .null ∧
      (formula = .literal value ∨ ∃ typeName, formula = .typed value typeName) := by
  generalize isNull : Tree.literal id .null kind = tree at represents
  cases represents with
  | @literal value =>
      have inferred := (Tree.literal.inj isNull).2.1
      exact ⟨value, Value.eq_null_of_infer inferred.symm, .inl rfl⟩
  | @typed value typeName _ _ _ _ read =>
      rw [← (Tree.literal.inj isNull).2.1] at read
      exact ⟨value, Value.eq_null_of_ofJson read, .inr ⟨typeName, rfl⟩⟩
  | field | unary | binary | aggregate => cases isNull

theorem subtrees (represents : formula.Represents fields tree) :
    List.Forall₂ (Represents fields) formula.elements tree.subtrees := by
  induction represents with
  | literal => exact .cons .literal .nil
  | typed named read => exact .cons (.typed named read) .nil
  | field found => exact .cons (.field found) .nil
  | unary known chosen operand induction =>
      exact List.rel_append induction (.cons (.unary known chosen operand) .nil)
  | binary known chosen left right leftInduction rightInduction =>
      exact List.rel_append (List.rel_append leftInduction rightInduction)
        (.cons (.binary known chosen left right) .nil)
  | aggregate known kind inner induction =>
      exact List.rel_append induction (.cons (.aggregate known kind inner) .nil)

end Formula.Represents

/-! ## Steps that add to a builder -/

namespace Expression.Builder

/-- Whether a builder has all nodes and findings of another one, and no further findings than
errors. -/
structure Continues (before after : Builder) : Prop extends before.Within after where
  errors : ∃ added : Diagnostic.Log, after.log = before.log ++ added ∧
    ∀ finding ∈ added, finding.severity = .error

namespace Continues

theorem refl (builder : Builder) : builder.Continues builder :=
  ⟨.refl builder, [], (List.append_nil _).symm, nofun⟩

theorem trans {first second third : Builder} (left : first.Continues second)
    (right : second.Continues third) : first.Continues third := by
  rcases left.errors with ⟨leftAdded, leftLog, leftErrors⟩
  rcases right.errors with ⟨rightAdded, rightLog, rightErrors⟩
  refine ⟨left.toWithin.trans right.toWithin, leftAdded ++ rightAdded, ?_, ?_⟩
  · rw [rightLog, leftLog, List.append_assoc]
  · intro finding member
    rcases List.mem_append.mp member with inLeft | inRight
    · exact leftErrors finding inLeft
    · exact rightErrors finding inRight

theorem quiet {first second third : Builder} (left : first.Continues second)
    (right : second.Continues third) (same : third.log = first.log) :
    second.log = first.log ∧ third.log = second.log := by
  rcases left.errors with ⟨leftAdded, leftLog, _⟩
  rcases right.errors with ⟨rightAdded, rightLog, _⟩
  rw [rightLog, leftLog, List.append_assoc] at same
  rcases List.append_eq_nil_iff.mp (List.append_right_eq_self.mp same) with ⟨rfl, rfl⟩
  rw [List.append_nil] at leftLog rightLog
  exact ⟨leftLog, rightLog⟩

end Continues

/-- What building made of a builder: it was only added to, the result is one of its nodes, and where
nothing was reported, something is known of the result. -/
structure Makes (before : Builder) (means : NodeId → Builder → Prop) (result : NodeId × Builder) :
    Prop where
  continues : before.Continues result.2
  known : result.1 < result.2.nodes.size
  quiet : result.2.log = before.log → means result.1 result.2

structure Pushes (before : Builder) (node : Node) (root : NodeId) (after : Builder) : Prop where
  root : root = before.nodes.size
  nodes : after.nodes = before.nodes.push node

section

variable {before between : Builder} {means goal : NodeId → Builder → Prop}
  {result : NodeId × Builder}

theorem Makes.after (makes : between.Makes means result) (continues : before.Continues between)
    (leads : between.log = before.log → ∀ root after, between.Continues after →
      means root after → goal root after) : before.Makes goal result where
  continues := continues.trans makes.continues
  known := makes.known
  quiet same := by
    rcases continues.quiet makes.continues same with ⟨first, second⟩
    exact leads first result.1 result.2 makes.continues (makes.quiet second)

theorem Makes.mono (makes : before.Makes means result)
    (leads : ∀ root after, means root after → goal root after) : before.Makes goal result :=
  makes.after (.refl before) fun _ root after _ => leads root after

theorem Makes.bind {action : Build NodeId} {next : NodeId → Build NodeId}
    {further : NodeId → Builder → NodeId → Builder → Prop}
    (first : before.Makes means (action.run before))
    (second : ∀ (id : NodeId) (between : Builder), before.Continues between →
      between.Makes (further id between) ((next id).run between))
    (leads : ∀ id between root after, means id between → further id between root after →
      goal root after) : before.Makes goal ((action >>= next).run before) := by
  rw [Build.run_bind]
  refine (second _ _ first.continues).after first.continues fun same root after _ holds => ?_
  exact leads _ _ root after (first.quiet same) holds

theorem makes_add (before : Builder) (node : Node) :
    before.Makes (before.Pushes node) ((Build.add node).run before) where
  continues := ⟨within_push before node, [], (List.append_nil _).symm, nofun⟩
  known := by
    change before.nodes.size < (before.push node).nodes.size
    rw [size_push]
    exact Nat.lt_succ_self _
  quiet _ := ⟨rfl, rfl⟩

theorem makes_degraded (before : Builder) (code : Diagnostic.Code) (message : String)
    (kind : Kind) : before.Makes means
      ((do Build.report (.error code message); Build.null kind : Build NodeId).run before) := by
  rw [Build.run_bind]
  have continues : before.Continues ((Build.report (.error code message)).run before).2 := by
    refine ⟨.of_nodes rfl (Nat.le_refl _), [.error code message], rfl, ?_⟩
    intro finding member
    cases List.mem_singleton.mp member
    rfl
  refine (makes_add _ (.literal .null kind)).after continues fun same => ?_
  have impossible : [Diagnostic.error code message] = [] := List.append_right_eq_self.mp same
  cases impossible

theorem makes_require {child : Option NodeId} (known : ∀ id ∈ child, id < before.nodes.size)
    (owner element : String) (kind : Kind) :
    before.Makes (fun id after => id ∈ child ∧ after = before)
      ((Build.require child owner element kind).run before) := by
  cases child with
  | none => exact makes_degraded before _ _ kind
  | some id => exact ⟨.refl before, known id rfl, fun _ => ⟨rfl, rfl⟩⟩

theorem makes_required {child : Option NodeId} (known : ∀ id ∈ child, id < before.nodes.size)
    (owner element : String) (kind : Kind) {build : NodeId → Build NodeId}
    {further : NodeId → Builder → NodeId → Builder → Prop}
    (makes : ∀ (id : NodeId) (between : Builder), before.Continues between →
      between.Makes (further id between) ((build id).run between)) :
    before.Makes (fun root after => ∃ id ∈ child, further id before root after)
      ((Build.require child owner element kind >>= build).run before) := by
  refine (makes_require known owner element kind).bind makes ?_
  rintro id between root after ⟨member, rfl⟩ holds
  exact ⟨id, member, holds⟩

end

/-! ## Operations -/

section

variable (builder : Builder)

theorem makes_negate (operand : NodeId) :
    builder.Makes (fun root after => ∃ operator,
      Formula.UnaryOperation.negate.Chooses (builder.kind operand) operator ∧
        builder.Pushes (.unary operator operand) root after)
      ((Build.negate operand).run builder) := by
  rw [Build.negate, run_kind_bind]
  cases chosen : UnaryOperator.negate? (builder.kind operand) with
  | none => exact makes_degraded builder _ _ .object
  | some operator =>
      refine (makes_add builder (.unary operator operand)).mono fun root after pushes => ?_
      exact ⟨operator, .of_negate? chosen, pushes⟩

theorem makes_arithmetic (operation : Arithmetic) (left right : NodeId) :
    builder.Makes (fun root after => ∃ operator,
      (Formula.Operation.arithmetic operation).Chooses (builder.kind left) (builder.kind right)
          operator ∧
        builder.Pushes (.binary operator left right) root after)
      ((Build.arithmetic operation left right).run builder) := by
  rw [Build.arithmetic, run_kind_bind, run_kind_bind]
  cases chosen : Build.arithmeticOperator? operation (builder.kind left) (builder.kind right) with
  | none => exact makes_degraded builder _ _ .object
  | some operator =>
      refine (makes_add builder (.binary operator left right)).mono fun root after pushes => ?_
      exact ⟨operator, .of_arithmeticOperator? chosen, pushes⟩

theorem makes_operation (operation : Formula.Operation) (left right : NodeId) :
    builder.Makes (fun root after => ∃ operator,
      operation.Chooses (builder.kind left) (builder.kind right) operator ∧
        builder.Pushes (.binary operator left right) root after)
      ((operation.build left right).run builder) := by
  have adds {operator : BinaryOperator}
      (chooses : operation.Chooses (builder.kind left) (builder.kind right) operator) :
      builder.Makes (fun root after => ∃ operator,
        operation.Chooses (builder.kind left) (builder.kind right) operator ∧
          builder.Pushes (.binary operator left right) root after)
        ((Build.binary operator left right).run builder) :=
    (makes_add builder (.binary operator left right)).mono fun root after pushes =>
      ⟨operator, chooses, pushes⟩
  cases operation with
  | arithmetic operation => exact makes_arithmetic builder operation left right
  | compare comparison => exact adds .compare
  | and => exact adds .and
  | or => exact adds .or

theorem makes_aggregate (function : AggregateFunction) (inner : NodeId) (scope : Scope) :
    builder.Makes (fun root after => ∃ key,
      builder.Pushes
        (.aggregate function inner scope key (function.resultKind (builder.kind inner))) root after)
      ((Build.aggregate function inner scope).run builder) := by
  have counts : builder.Continues { builder with nextKey := builder.nextKey + 1 } :=
    ⟨.of_nodes rfl (Nat.le_succ _), [], (List.append_nil _).symm, nofun⟩
  refine (makes_add _ _).after counts fun _ root after _ pushes => ?_
  exact ⟨builder.nextKey, pushes.root, pushes.nodes⟩

end

/-! ## The nodes behind a position -/

namespace Pushes

variable {before after : Builder} {node : Node} {root : NodeId}

theorem within (pushes : before.Pushes node root after) (nextKey : before.nextKey ≤ after.nextKey) :
    before.Within after :=
  (within_push before node).trans (.of_nodes pushes.nodes nextKey)

theorem size (pushes : before.Pushes node root after) :
    after.nodes.size = before.nodes.size + 1 := by
  rw [pushes.nodes, Array.size_push]

theorem tree_eq (pushes : before.Pushes node root after) (within : before.Within after)
    (known : ∀ child ∈ node.children, child < before.nodes.size) :
    after.tree root = node.treeAt root before.tree := by
  have found : after.nodes[root]? = some node := by
    rw [pushes.nodes, pushes.root]
    exact getElem?_push_size before node
  rw [← pushes.root] at known
  rw [tree_of_node_of_below found known]
  rw [pushes.root] at known
  cases node with
  | literal | field => rfl
  | unary operator operand =>
      rw [Node.treeAt, Node.treeAt, within.tree_eq (known operand List.mem_cons_self)]
  | binary operator left right =>
      rw [Node.treeAt, Node.treeAt, within.tree_eq (known left List.mem_cons_self),
        within.tree_eq (known right (List.mem_cons_of_mem left List.mem_cons_self))]
  | aggregate function inner scope key kind =>
      rw [Node.treeAt, Node.treeAt, within.tree_eq (known inner List.mem_cons_self)]

end Pushes

/-- Whether trees are those of all nodes of a builder from a position on. -/
structure Holds (first : NodeId) (trees : List Tree) (builder : Builder) : Prop where
  size : builder.nodes.size = first + trees.length
  trees : trees = (List.range' first trees.length).map builder.tree

namespace Holds

variable {before between after : Builder} {first : NodeId} {trees : List Tree}

theorem nil (builder : Builder) : Holds builder.nodes.size [] builder :=
  ⟨rfl, rfl⟩

theorem map_tree_eq (holds : Holds first trees between) (within : between.Within after) :
    trees = (List.range' first trees.length).map after.tree := by
  refine holds.trees.trans (List.map_congr_left fun id member => ?_)
  have last := List.mem_range'_1.mp member
  exact (within.tree_eq (by rw [holds.size]; exact last.2)).symm

theorem getElem?_eq (holds : Holds first trees before) {id : NodeId} (atLeast : first ≤ id)
    (known : id < before.nodes.size) : trees[id - first]? = some (before.tree id) := by
  rw [holds.size] at known
  have inside := Nat.sub_lt_left_of_lt_add atLeast known
  rw [holds.trees, List.getElem?_map, List.getElem?_range' inside, Nat.one_mul,
    Nat.add_sub_cancel' atLeast, Option.map_some]

theorem push (holds : Holds first trees between) (within : between.Within after) {node : Node}
    {root : NodeId} (pushes : between.Pushes node root after) :
    Holds first (trees ++ [after.tree root]) after where
  size := by
    rw [pushes.size, holds.size, List.length_append, List.length_singleton, Nat.add_assoc]
  trees := by
    rw [List.length_append, List.length_singleton, List.range'_1_concat, List.map_append,
      ← holds.map_tree_eq within, List.map_singleton, pushes.root, holds.size]

theorem append {others : List Tree} (left : Holds first trees between)
    (right : Holds between.nodes.size others after) (within : between.Within after) :
    Holds first (trees ++ others) after where
  size := by
    rw [right.size, left.size, List.length_append, Nat.add_assoc]
  trees := by
    rw [List.length_append, ← List.range'_append_1, List.map_append, ← left.map_tree_eq within,
      ← left.size, ← right.trees]

end Holds

end Expression.Builder

/-! ## Formulas -/

namespace Formula

open Builder

/-- Whether a formula was built as it is written: its root has the tree that it says, and the
nodes that were added are those of this tree. -/
structure BuiltAs (fields : Fields) (formula : Formula) (before : Builder) (root : NodeId)
    (after : Builder) : Prop where
  represents : formula.Represents fields (after.tree root)
  holds : Holds before.nodes.size (after.tree root).subtrees after

section

variable {fields : Fields} {before between after : Builder} {root : NodeId}

theorem builtAs_of_pushes {formula : Formula} {trees : List Tree} {node : Node}
    (holds : Holds before.nodes.size trees between) (continues : between.Continues after)
    (pushes : between.Pushes node root after)
    (known : ∀ child ∈ node.children, child < between.nodes.size)
    (represents : formula.Represents fields (node.treeAt root between.tree))
    (subtrees : (node.treeAt root between.tree).subtrees =
      trees ++ [node.treeAt root between.tree]) :
    BuiltAs fields formula before root after := by
  have tree := pushes.tree_eq continues.toWithin known
  have grown := holds.push continues.toWithin pushes
  constructor
  · rw [tree]
    exact represents
  · rw [tree, subtrees, ← tree]
    exact grown

theorem builtAs_leaf {formula : Formula} {node : Node} (continues : before.Continues after)
    (pushes : before.Pushes node root after) (leaf : node.children = [])
    (represents : formula.Represents fields (node.treeAt root before.tree)) :
    BuiltAs fields formula before root after := by
  refine builtAs_of_pushes (.nil before) continues pushes ?_ represents ?_
  · intro child member
    rw [leaf] at member
    cases member
  · cases node <;> first | rfl | cases leaf

end

/-! ## Elements with operands -/

structure MakesOperand (fields : Fields) (operand : Option Formula) (before : Builder)
    (result : Option NodeId × Builder) : Prop where
  continues : before.Continues result.2
  known : ∀ id ∈ result.1, id < result.2.nodes.size
  quiet : result.2.log = before.log → ∀ id ∈ result.1, ∃ formula ∈ operand,
    BuiltAs fields formula before id result.2

section

variable {fields : Fields} {before : Builder}

theorem makes_buildTyped (kind : Kind) {value : Json.Canonical} {typeName : String}
    (named : Kind.ofName? typeName = some kind) :
    before.Makes (BuiltAs fields (.typed value typeName) before)
      ((buildTyped kind value.val).run before) := by
  have adds {constant : Value} (read : Value.ofJson kind value.val = .ok constant) :
      before.Makes (BuiltAs fields (.typed value typeName) before)
        ((Build.add (.literal constant kind)).run before) :=
    (makes_add before _).after (.refl before) fun _ _ _ continues pushes =>
      builtAs_leaf continues pushes rfl (.typed named read)
  rw [buildTyped]
  cases read : Value.ofJson kind value.val with
  | error error => exact makes_degraded before _ _ kind
  | ok constant =>
      dsimp only
      cases constant with
      | null => exact adds read
      | _ =>
          rcases Value.kind?_of_ofJson read with missing | own
          · cases missing
          · cases own
            exact adds read

theorem makes_buildUnary {operand : Option Formula} {made : Option NodeId × Builder}
    (operandMade : MakesOperand fields operand before made) (spelling : String) :
    before.Makes (BuiltAs fields (.unary spelling operand) before)
      ((buildUnary spelling made.1).run made.2) := by
  have adds {operation : UnaryOperation}
      (spelled : UnaryOperation.ofSpelling? spelling = some operation)
      (owner element : String) (kind : Kind) {build : NodeId → Build NodeId}
      (makes : ∀ (id : NodeId) (between : Builder), between.Makes (fun root after => ∃ operator,
        operation.Chooses (between.kind id) operator ∧
          between.Pushes (.unary operator id) root after) ((build id).run between)) :
      before.Makes (BuiltAs fields (.unary spelling operand) before)
        ((Build.require made.1 owner element kind >>= build).run made.2) := by
    refine (makes_required operandMade.known owner element kind fun id between _ =>
      makes id between).after operandMade.continues ?_
    rintro same root after continues ⟨id, member, operator, chosen, pushes⟩
    obtain ⟨formula, rfl, built⟩ := operandMade.quiet same id member
    rw [← kind_tree] at chosen
    refine builtAs_of_pushes built.holds continues pushes ?_
      (.unary spelled chosen built.represents) rfl
    intro child isChild
    cases List.mem_singleton.mp isChild
    exact operandMade.known id member
  rw [buildUnary]
  cases spelled : UnaryOperation.ofSpelling? spelling with
  | none => exact (makes_degraded made.2 _ _ .object).after operandMade.continues fun _ _ _ _ => id
  | some operation =>
      cases operation with
      | negate => exact adds spelled _ _ _ fun id between => makes_negate between id
      | not =>
          refine adds spelled _ _ _ fun id between => ?_
          exact (makes_add between _).mono fun root after pushes => ⟨.not, .not, pushes⟩

theorem makes_buildAggregate {inner : Option Formula} {made : Option NodeId × Builder}
    (innerMade : MakesOperand fields inner before made) (spelling : String) (scope : Scope) :
    before.Makes (BuiltAs fields (.aggregate spelling inner scope) before)
      ((buildAggregate spelling made.1 scope).run made.2) := by
  rw [buildAggregate]
  cases spelled : AggregateFunction.ofName? spelling with
  | none => exact (makes_degraded made.2 _ _ .object).after innerMade.continues fun _ _ _ _ => id
  | some function =>
      refine (makes_required innerMade.known _ _ _ fun id between _ =>
        makes_aggregate between function id scope).after innerMade.continues ?_
      rintro same root after continues ⟨id, member, key, pushes⟩
      obtain ⟨formula, rfl, built⟩ := innerMade.quiet same id member
      rw [← kind_tree] at pushes
      refine builtAs_of_pushes built.holds continues pushes ?_
        (.aggregate spelled rfl built.represents) rfl
      intro child isChild
      cases List.mem_singleton.mp isChild
      exact innerMade.known id member

theorem makes_buildBinary {left right : Option Formula}
    {leftMade rightMade : Option NodeId × Builder}
    (leftMakes : MakesOperand fields left before leftMade)
    (rightMakes : MakesOperand fields right leftMade.2 rightMade) (spelling : String) :
    before.Makes (BuiltAs fields (.binary spelling left right) before)
      ((buildBinary spelling leftMade.1 rightMade.1).run rightMade.2) := by
  have continues := leftMakes.continues.trans rightMakes.continues
  have leftKnown : ∀ id ∈ leftMade.1, id < rightMade.2.nodes.size := fun id member =>
    rightMakes.continues.toWithin.known (leftMakes.known id member)
  have adds {operation : Operation} (spelled : Operation.ofSpelling? spelling = some operation)
      (kind : Kind) : before.Makes (BuiltAs fields (.binary spelling left right) before)
        ((do
          let left ← Build.require leftMade.1 ("Operator '" ++ spelling ++ "'") "Left" kind
          let right ← Build.require rightMade.1 ("Operator '" ++ spelling ++ "'") "Right" kind
          operation.build left right : Build NodeId).run rightMade.2) := by
    refine (makes_required leftKnown _ _ _ fun leftId between further =>
      makes_required (fun id member => further.toWithin.known (rightMakes.known id member)) _ _ _
        fun rightId last _ => makes_operation last operation leftId rightId).after continues ?_
    rintro same root after grows
      ⟨leftId, leftMember, rightId, rightMember, operator, chosen, pushes⟩
    rcases leftMakes.continues.quiet rightMakes.continues same with ⟨leftSame, rightSame⟩
    obtain ⟨leftFormula, rfl, leftBuilt⟩ := leftMakes.quiet leftSame leftId leftMember
    obtain ⟨rightFormula, rfl, rightBuilt⟩ := rightMakes.quiet rightSame rightId rightMember
    have leftTree := rightMakes.continues.toWithin.tree_eq (leftMakes.known leftId leftMember)
    have leftRepresents := leftBuilt.represents
    have holds := leftBuilt.holds.append rightBuilt.holds rightMakes.continues.toWithin
    rw [← leftTree] at leftRepresents holds
    rw [← kind_tree, ← kind_tree] at chosen
    refine builtAs_of_pushes holds grows pushes ?_
      (.binary spelled chosen leftRepresents rightBuilt.represents) rfl
    intro child isChild
    rcases List.mem_cons.mp isChild with rfl | isRight
    · exact leftKnown child leftMember
    · cases List.mem_singleton.mp isRight
      exact rightMakes.known rightId rightMember
  rw [buildBinary]
  cases spelled : Operation.ofSpelling? spelling with
  | none => exact (makes_degraded rightMade.2 _ _ .object).after continues fun _ _ _ _ => id
  | some operation =>
      dsimp only
      cases leftMade.1 <|> rightMade.1 with
      | none =>
          dsimp only
          rw [pure_bind]
          exact adds spelled operation.fallbackKind
      | some present =>
          dsimp only
          rw [run_kind_bind]
          exact adds spelled (rightMade.2.kind present)

end

/-! ## Formulas -/

mutual

theorem makes_build (fields : Fields) (formula : Formula) (before : Builder) :
    before.Makes (BuiltAs fields formula before) ((build fields formula).run before) := by
  cases formula with
  | literal value =>
      rw [build]
      exact (makes_add before _).after (.refl before) fun _ _ _ continues pushes =>
        builtAs_leaf continues pushes rfl .literal
  | typed value typeName =>
      rw [build]
      cases named : Kind.ofName? typeName with
      | none => exact makes_degraded before _ _ .object
      | some kind => exact makes_buildTyped kind named
  | field name =>
      rw [build, buildField]
      cases found : fields.get? name with
      | none => exact makes_degraded before _ _ .object
      | some field =>
          exact (makes_add before _).after (.refl before) fun _ _ _ continues pushes =>
            builtAs_leaf continues pushes rfl (.field found)
  | unary operator operand =>
      rw [build, Build.run_bind]
      exact makes_buildUnary (makes_buildOperand fields operand before) operator
  | binary operator left right =>
      have leftMakes := makes_buildOperand fields left before
      rw [build, Build.run_bind, Build.run_bind]
      exact makes_buildBinary leftMakes (makes_buildOperand fields right _) operator
  | aggregate function inner scope =>
      rw [build, Build.run_bind]
      exact makes_buildAggregate (makes_buildOperand fields inner before) function scope

theorem makes_buildOperand (fields : Fields) (operand : Option Formula) (before : Builder) :
    MakesOperand fields operand before ((buildOperand fields operand).run before) := by
  cases operand with
  | none =>
      rw [buildOperand]
      exact ⟨.refl before, nofun, nofun⟩
  | some formula =>
      have makes := makes_build fields formula before
      rw [buildOperand, Build.run_bind]
      refine ⟨makes.continues, ?_, ?_⟩
      · rintro id ⟨⟩
        exact makes.known
      · rintro same id ⟨⟩
        exact ⟨formula, rfl, makes.quiet same⟩

end

/-! ## Nodes and elements -/

theorem Represents.kind_operand {fields : Fields} {builder : Builder} {element : Formula}
    {id operand : NodeId}
    (represents : element.Represents fields
      (if operand < id then builder.tree operand else .unknown operand)) :
    (if operand < id then builder.tree operand else .unknown operand).kind =
      builder.kind operand := by
  split at represents
  · rename_i below
    rw [if_pos below, kind_tree]
  · cases represents

namespace BuiltAs

variable {fields : Fields} {formula : Formula} {before after : Builder} {root : NodeId}

theorem ids_eq (built : BuiltAs fields formula before root after) :
    (after.tree root).subtrees.map Tree.id =
      List.range' before.nodes.size (after.nodes.size - before.nodes.size) := by
  rw [built.holds.size, Nat.add_sub_cancel_left]
  conv_lhs => rw [built.holds.trees, List.map_map]
  refine (List.map_congr_left fun id _ => ?_).trans (List.map_id _)
  exact Tree.id_ofNodes after.nodes id

theorem forms_eq (built : BuiltAs fields formula before root after) :
    (after.tree root).subtrees.map Tree.form? =
      formula.elements.map fun element => some element.form := by
  have each := built.represents.subtrees
  generalize formula.elements = elements, (after.tree root).subtrees = trees at each
  induction each with
  | nil => rfl
  | cons represents _ induction => rw [List.map_cons, List.map_cons, represents.form?_eq, induction]

theorem element (built : BuiltAs fields formula before root after) {id : NodeId} {node : Node}
    (new : before.nodes.size ≤ id) (found : after.nodes[id]? = some node) :
    ∃ element, formula.elements[id - before.nodes.size]? = some element ∧
      element.Represents fields
        (node.treeAt id fun operand =>
          if operand < id then after.tree operand else .unknown operand) := by
  have each := List.forall₂_iff_get.mp built.represents.subtrees
  rcases List.getElem?_eq_some_iff.mp (built.holds.getElem?_eq new (lt_of_node found)) with
    ⟨inTree, isTree⟩
  have inFormula : id - before.nodes.size < formula.elements.length := by
    rw [each.1]
    exact inTree
  have represents := each.2 _ inFormula inTree
  rw [List.get_eq_getElem, List.get_eq_getElem, isTree, tree_of_node found] at represents
  exact ⟨_, List.getElem?_eq_getElem inFormula, represents⟩

theorem chooses (built : BuiltAs fields formula before root after) {id left right : NodeId}
    {operator : BinaryOperator} (new : before.nodes.size ≤ id)
    (found : after.nodes[id]? = some (.binary operator left right)) :
    ∃ operation : Operation, operation.Chooses (after.kind left) (after.kind right) operator := by
  rcases built.element new found with ⟨element, _, represents⟩
  cases represents with
  | binary _ chosen leftRepresents rightRepresents =>
      rw [leftRepresents.kind_operand, rightRepresents.kind_operand] at chosen
      exact ⟨_, chosen⟩

end BuiltAs

end Formula

/-- Nothing of a formula is degraded in silence. The root is a node of the builder, and only errors
are added to the log. If none is added, each node that was added is that of the element at its
place: a null is a constant that is written as null, a field is the declared one of its name, and
each operation and aggregate has a node of its own in the tree of the root. A node of arithmetic has
numeric operands, whose kinds are promoted to its own, and a concatenation has text. -/
theorem formulas_degrade_only_with_errors (fields : Fields) (formula : Formula) (before : Builder)
    {root : NodeId} {after : Builder} (built : (formula.build fields).run before = (root, after)) :
    root < after.nodes.size ∧ ∃ added : Diagnostic.Log, after.log = before.log ++ added ∧
      ((∀ finding ∈ added, finding.severity ≠ .error) →
        (∀ id kind, before.nodes.size ≤ id → after.nodes[id]? = some (.literal .null kind) →
          ∃ value, value.val = .null ∧
            (formula.elements[id - before.nodes.size]? = some (.literal value) ∨ ∃ typeName,
              formula.elements[id - before.nodes.size]? = some (.typed value typeName))) ∧
        (∀ id column kind, before.nodes.size ≤ id →
          after.nodes[id]? = some (.field column kind) →
            ∃ name found, formula.elements[id - before.nodes.size]? = some (.field name) ∧
              fields.get? name = some found ∧ column = found.column ∧ kind = found.kind) ∧
        (formula.Represents fields (after.tree root) ∧
          (after.tree root).subtrees.map Tree.form? =
            formula.elements.map (fun element => some element.form) ∧
          (after.tree root).subtrees.map Tree.id =
            List.range' before.nodes.size (after.nodes.size - before.nodes.size)) ∧
        (∀ id operation numeric left right, before.nodes.size ≤ id →
          after.nodes[id]? = some (.binary (.arithmetic operation numeric) left right) →
            ((after.kind left).isNumeric = true ∧ (after.kind right).isNumeric = true) ∧
              (after.kind left).promote? (after.kind right) = some numeric.kind) ∧
        (∀ id left right, before.nodes.size ≤ id →
          after.nodes[id]? = some (.binary .concat left right) →
            after.kind left = .string ∨ after.kind right = .string) ∧
        (∀ id numeric operand, before.nodes.size ≤ id →
          after.nodes[id]? = some (.unary (.negate numeric) operand) →
            after.kind operand = numeric.kind)) := by
  have makes := Formula.makes_build fields formula before
  rw [built] at makes
  rcases makes.continues.errors with ⟨added, log, errors⟩
  refine ⟨makes.known, added, log, fun quiet => ?_⟩
  have nothing : added = [] := by
    refine List.eq_nil_iff_forall_not_mem.mpr fun finding member => ?_
    exact quiet finding member (errors finding member)
  rw [nothing, List.append_nil] at log
  have asWritten := makes.quiet log
  refine ⟨?_, ?_, ⟨asWritten.represents, asWritten.forms_eq, asWritten.ids_eq⟩, ?_, ?_, ?_⟩
  · intro id kind new found
    rcases asWritten.element new found with ⟨element, isElement, represents⟩
    rcases represents.of_null with ⟨value, isNull, rfl | ⟨typeName, rfl⟩⟩
    · exact ⟨value, isNull, .inl isElement⟩
    · exact ⟨value, isNull, .inr ⟨typeName, isElement⟩⟩
  · intro id column kind new found
    rcases asWritten.element new found with ⟨element, isElement, represents⟩
    cases represents with
    | field known => exact ⟨_, _, isElement, known, rfl, rfl⟩
  · intro id operation numeric left right new found
    rcases asWritten.chooses new found with ⟨_, chosen⟩
    cases chosen with
    | numeric promoted =>
        have both := Kind.promote?_isSome (after.kind left) (after.kind right)
        rw [promoted] at both
        exact ⟨Bool.and_eq_true_iff.mp both.symm, promoted⟩
  · intro id left right new found
    rcases asWritten.chooses new found with ⟨_, chosen⟩
    cases chosen with
    | text written => exact written
  · intro id numeric operand new found
    rcases asWritten.element new found with ⟨element, isElement, represents⟩
    cases represents with
    | unary _ chosen operandRepresents =>
        rw [operandRepresents.kind_operand] at chosen
        cases chosen with
        | negate same => exact same

def Formula.missingPlusAmount : Formula :=
  .binary "+" (some (.typed ⟨.null, rfl⟩ "Decimal")) (some (.field "amount"))

def Fields.onlyAmount : Fields :=
  ⟨[⟨"amount", .int32, 0⟩], ["amount"]⟩

theorem Formula.run_missingPlusAmount : (missingPlusAmount.build .onlyAmount).run {} =
    (2, { nodes := #[.literal .null .decimal, .field 0 .int32,
      .binary (.arithmetic .plus .decimal) 0 1] }) := by
  have named : Kind.ofName? "Decimal" = some .decimal := by decide +kernel
  have found : Fields.onlyAmount.get? "amount" = some ⟨"amount", .int32, 0⟩ :=
    List.find?_cons_of_pos (beq_self_eq_true _)
  have spelled : Operation.ofSpelling? "+" = some (.arithmetic .plus) := by decide +kernel
  simp only [missingPlusAmount, build, buildOperand, buildField, buildBinary, named, found, spelled]
  rfl

theorem missing_plus_amount_is_built_as_written :
    (Kind.decimal.promote? .int32 = some .decimal) ∧
      (∃ value : Json.Canonical, value.val = .null ∧
        (Formula.missingPlusAmount.elements[0]? = some (.literal value) ∨ ∃ typeName,
          Formula.missingPlusAmount.elements[0]? = some (.typed value typeName))) ∧
      (∃ name found, Formula.missingPlusAmount.elements[1]? = some (.field name) ∧
        Fields.onlyAmount.get? name = some found ∧ 0 = found.column ∧ .int32 = found.kind) := by
  rcases formulas_degrade_only_with_errors .onlyAmount .missingPlusAmount {}
    Formula.run_missingPlusAmount with ⟨_, added, log, faithful⟩
  have quiet : added = [] := log.symm
  rcases faithful (by rw [quiet]; nofun) with ⟨nulls, reads, _, sums, _⟩
  exact ⟨(sums 2 .plus .decimal 0 1 (Nat.zero_le _) rfl).2,
    nulls 0 .decimal (Nat.zero_le _) rfl, reads 1 0 .int32 (Nat.zero_le _) rfl⟩

end GroupedReport
