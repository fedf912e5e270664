import GroupedReport.Proofs.Expression.Shape
import GroupedReport.Proofs.Operator.Kind

/-!
# The nodes of a builder

What holds of the nodes of every builder: operands come before their nodes, constants have the
kinds they are declared with, and an aggregate has a key that is greater than those inside of it.
Aggregates with one key agree in everything but the positions of their operands, so that a kept
value means the same to all of them.
-/

namespace GroupedReport.Expression

/-- What holds of a node at a position of a builder. -/
def Node.ValidIn (builder : Builder) (id : NodeId) : Node → Prop
  | .literal value kind => value.Fits kind
  | .field _ _ => True
  | .unary _ operand => operand < id
  | .binary _ left right => left < id ∧ right < id
  | .aggregate function inner _ key kind =>
      inner < id ∧ kind = function.resultKind (builder.kind inner) ∧ key < builder.nextKey ∧
        ∀ inside ∈ (builder.tree inner).keys, inside < key

namespace Builder

/-- What holds of all nodes of a builder. -/
structure Valid (builder : Builder) : Prop where
  node {id : NodeId} {node : Node} : builder.nodes[id]? = some node → node.ValidIn builder id
  agree {first second : NodeId} {function other : AggregateFunction} {inner otherInner : NodeId}
      {scope otherScope : Scope} {key : AggregateKey} {kind otherKind : Kind} :
    builder.nodes[first]? = some (.aggregate function inner scope key kind) →
      builder.nodes[second]? = some (.aggregate other otherInner otherScope key otherKind) →
        function = other ∧ scope = otherScope ∧ kind = otherKind

/-- Whether a builder still has all nodes of another one, at their positions. -/
structure Within (before after : Builder) : Prop where
  node (id : NodeId) : id < before.nodes.size → after.nodes[id]? = before.nodes[id]?
  size_le : before.nodes.size ≤ after.nodes.size
  nextKey_le : before.nextKey ≤ after.nextKey

namespace Within

theorem refl (builder : Builder) : builder.Within builder :=
  ⟨fun _ _ => rfl, Nat.le_refl _, Nat.le_refl _⟩

theorem trans {first second third : Builder} (left : first.Within second)
    (right : second.Within third) : first.Within third where
  node id known := (right.node id (Nat.lt_of_lt_of_le known left.size_le)).trans
    (left.node id known)
  size_le := Nat.le_trans left.size_le right.size_le
  nextKey_le := Nat.le_trans left.nextKey_le right.nextKey_le

theorem of_nodes {before after : Builder} (nodes : after.nodes = before.nodes)
    (nextKey : before.nextKey ≤ after.nextKey) : before.Within after where
  node _ _ := by rw [nodes]
  size_le := Nat.le_of_eq (congrArg Array.size nodes).symm
  nextKey_le := nextKey

variable {before after : Builder} {id : NodeId}

theorem tree_eq (within : before.Within after) (known : id < before.nodes.size) :
    after.tree id = before.tree id :=
  Tree.ofNodes_congr fun position atMost =>
    within.node position (Nat.lt_of_le_of_lt atMost known)

theorem kind_eq (within : before.Within after) (known : id < before.nodes.size) :
    after.kind id = before.kind id := by
  rw [kind, kind, within.node id known]

theorem known (within : before.Within after) (known : id < before.nodes.size) :
    id < after.nodes.size :=
  Nat.lt_of_lt_of_le known within.size_le

end Within

theorem kind_tree (builder : Builder) (id : NodeId) : (builder.tree id).kind = builder.kind id :=
  Tree.kind_ofNodes builder.nodes id

theorem constant?_tree (builder : Builder) (id : NodeId) :
    (builder.tree id).constant? = builder.constant? id :=
  Tree.constant?_ofNodes builder.nodes id

theorem lt_of_node {builder : Builder} {id : NodeId} {node : Node}
    (found : builder.nodes[id]? = some node) : id < builder.nodes.size :=
  (Array.getElem?_eq_some_iff.mp found).choose

theorem kind_of_node {builder : Builder} {id : NodeId} {node : Node}
    (found : builder.nodes[id]? = some node) : builder.kind id = node.kind := by
  rw [kind, found]
  rfl

theorem validIn_of_within {before after : Builder} (within : before.Within after) {id : NodeId}
    (atMost : id ≤ before.nodes.size) {node : Node} (valid : node.ValidIn before id) :
    node.ValidIn after id := by
  cases node with
  | literal | field | unary | binary => exact valid
  | aggregate function inner scope key kind =>
      rcases valid with ⟨below, kindEqual, fresh, inside⟩
      have known := Nat.lt_of_lt_of_le below atMost
      refine ⟨below, ?_, Nat.lt_of_lt_of_le fresh within.nextKey_le, ?_⟩
      · rw [within.kind_eq known]
        exact kindEqual
      · rw [within.tree_eq known]
        exact inside

theorem Valid.of_nodes {before after : Builder} (valid : before.Valid)
    (nodes : after.nodes = before.nodes) (nextKey : before.nextKey ≤ after.nextKey) :
    after.Valid where
  node {id _} found := by
    rw [nodes] at found
    exact validIn_of_within (.of_nodes nodes nextKey) (Nat.le_of_lt (lt_of_node found))
      (valid.node found)
  agree first second := by
    rw [nodes] at first second
    exact valid.agree first second

theorem valid_empty : Valid {} where
  node found := by cases found
  agree found := by cases found

/-! ## Adding a node -/

def push (builder : Builder) (node : Node) : Builder :=
  { builder with nodes := builder.nodes.push node }

@[simp] theorem size_push (builder : Builder) (node : Node) :
    (builder.push node).nodes.size = builder.nodes.size + 1 :=
  Array.size_push node

theorem getElem?_push (builder : Builder) (node : Node) (id : NodeId) :
    (builder.push node).nodes[id]? =
      if id = builder.nodes.size then some node else builder.nodes[id]? :=
  Array.getElem?_push

theorem within_push (builder : Builder) (node : Node) : builder.Within (builder.push node) where
  node id known := by
    rw [getElem?_push, if_neg (Nat.ne_of_lt known)]
  size_le := by
    rw [size_push]
    exact Nat.le_succ _
  nextKey_le := Nat.le_refl _

theorem getElem?_push_size (builder : Builder) (node : Node) :
    (builder.push node).nodes[builder.nodes.size]? = some node := by
  rw [getElem?_push, if_pos rfl]

/-- Whether an aggregate agrees with all nodes of a builder that have its key. -/
def Admits (builder : Builder) : Node → Prop
  | .aggregate function _ scope key kind =>
      ∀ {id : NodeId} {other : AggregateFunction} {inner : NodeId} {otherScope : Scope}
          {otherKind : Kind},
        builder.nodes[id]? = some (.aggregate other inner otherScope key otherKind) →
          function = other ∧ scope = otherScope ∧ kind = otherKind
  | _ => True

theorem Valid.push {builder : Builder} (valid : builder.Valid) {node : Node}
    (nodeValid : node.ValidIn builder builder.nodes.size) (admitted : builder.Admits node) :
    (builder.push node).Valid where
  node {id found} equal := by
    rw [getElem?_push] at equal
    split at equal
    · rename_i new
      cases equal
      rw [new]
      exact validIn_of_within (within_push builder node) (Nat.le_refl _) nodeValid
    · exact validIn_of_within (within_push builder node) (Nat.le_of_lt (lt_of_node equal))
        (valid.node equal)
  agree firstFound secondFound := by
    rw [getElem?_push] at firstFound secondFound
    split at firstFound <;> split at secondFound
    · cases firstFound
      cases secondFound
      exact ⟨rfl, rfl, rfl⟩
    · cases firstFound
      exact admitted secondFound
    · cases secondFound
      rcases admitted firstFound with ⟨function, scope, kind⟩
      exact ⟨function.symm, scope.symm, kind.symm⟩
    · exact valid.agree firstFound secondFound

/-! ## Trees of nodes -/

end Builder

def Node.treeAt (id : NodeId) (operand : NodeId → Tree) : Node → Tree
  | .literal value kind => .literal id value kind
  | .field column kind => .field id column kind
  | .unary operator inner => .unary id operator (operand inner)
  | .binary operator left right => .binary id operator (operand left) (operand right)
  | .aggregate function inner scope key kind =>
      .aggregate id function (operand inner) scope key kind

namespace Builder

theorem tree_of_node {builder : Builder} {id : NodeId} {node : Node}
    (found : builder.nodes[id]? = some node) :
    builder.tree id =
      node.treeAt id fun operand =>
        if operand < id then builder.tree operand else .unknown operand := by
  rw [tree, Tree.ofNodes, found]
  cases node <;> rfl

theorem tree_of_node_of_below {builder : Builder} {id : NodeId} {node : Node}
    (found : builder.nodes[id]? = some node) (below : ∀ child ∈ node.children, child < id) :
    builder.tree id = node.treeAt id builder.tree := by
  rw [tree_of_node found]
  cases node with
  | literal | field => rfl
  | unary operator operand =>
      have operandBelow := below operand List.mem_cons_self
      simp only [Node.treeAt, if_pos operandBelow]
  | binary operator left right =>
      have leftBelow := below left List.mem_cons_self
      have rightBelow := below right (List.mem_cons_of_mem left List.mem_cons_self)
      simp only [Node.treeAt, if_pos leftBelow, if_pos rightBelow]
  | aggregate function inner scope key kind =>
      have innerBelow := below inner List.mem_cons_self
      simp only [Node.treeAt, if_pos innerBelow]

theorem Valid.child_lt {builder : Builder} (valid : builder.Valid) {id child : NodeId} {node : Node}
    (found : builder.nodes[id]? = some node) (member : child ∈ node.children) : child < id := by
  have nodeValid := valid.node found
  cases node with
  | literal | field => cases member
  | unary =>
      cases List.mem_singleton.mp member
      exact nodeValid
  | binary =>
      rcases List.mem_cons.mp member with rfl | isLast
      · exact nodeValid.1
      · cases List.mem_singleton.mp isLast
        exact nodeValid.2
  | aggregate =>
      cases List.mem_singleton.mp member
      exact nodeValid.1

theorem Valid.tree_eq {builder : Builder} (valid : builder.Valid) {id : NodeId} {node : Node}
    (found : builder.nodes[id]? = some node) :
    builder.tree id = node.treeAt id builder.tree :=
  tree_of_node_of_below found fun _ member => valid.child_lt found member

theorem tree_of_absent {builder : Builder} {id : NodeId} (absent : builder.nodes[id]? = none) :
    builder.tree id = .unknown id := by
  rw [tree, Tree.ofNodes, absent]

@[elab_as_elim]
theorem Valid.node_induction {builder : Builder} (valid : builder.Valid) {motive : NodeId → Prop}
    (unknown : ∀ id, builder.nodes[id]? = none → motive id)
    (literal : ∀ id value kind, builder.nodes[id]? = some (.literal value kind) → motive id)
    (field : ∀ id column kind, builder.nodes[id]? = some (.field column kind) → motive id)
    (unary : ∀ id operator operand, builder.nodes[id]? = some (.unary operator operand) →
      motive operand → motive id)
    (binary : ∀ id operator left right,
      builder.nodes[id]? = some (.binary operator left right) →
        motive left → motive right → motive id)
    (aggregate : ∀ id function inner scope key kind,
      builder.nodes[id]? = some (.aggregate function inner scope key kind) →
        motive inner → motive id)
    (id : NodeId) : motive id := by
  induction id using Nat.strongRecOn with
  | ind id induction =>
      cases found : builder.nodes[id]? with
      | none => exact unknown id found
      | some node =>
          have nodeValid := valid.node found
          cases node with
          | literal value kind => exact literal id value kind found
          | field column kind => exact field id column kind found
          | unary operator operand =>
              exact unary id operator operand found (induction operand nodeValid)
          | binary operator left right =>
              exact binary id operator left right found (induction left nodeValid.1)
                (induction right nodeValid.2)
          | aggregate function inner scope key kind =>
              exact aggregate id function inner scope key kind found (induction inner nodeValid.1)

end Builder

end GroupedReport.Expression
