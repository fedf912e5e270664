import GroupedReport.Proofs.Evaluation.Folding
import GroupedReport.Proofs.Expression.Recursion

/-!
# Recursion over nodes

Trees are cut off where an operand does not come before its node, and so are walks. In a builder
this never happens: a recursion that follows all operands, wherever they are, comes to an end, and
meets none but known nodes.
-/

namespace GroupedReport.Expression

/-- What a node is written out as if every operand is followed and is known. -/
inductive Unfolds (nodes : Array Node) : NodeId → Tree → Prop
  | literal {id : NodeId} {value : Value} {kind : Kind}
      (found : nodes[id]? = some (.literal value kind)) : Unfolds nodes id (.literal id value kind)
  | field {id : NodeId} {column : Nat} {kind : Kind}
      (found : nodes[id]? = some (.field column kind)) : Unfolds nodes id (.field id column kind)
  | unary {id operand : NodeId} {operator : UnaryOperator} {tree : Tree}
      (found : nodes[id]? = some (.unary operator operand)) (unfolds : Unfolds nodes operand tree) :
      Unfolds nodes id (.unary id operator tree)
  | binary {id left right : NodeId} {operator : BinaryOperator} {leftTree rightTree : Tree}
      (found : nodes[id]? = some (.binary operator left right))
      (leftUnfolds : Unfolds nodes left leftTree) (rightUnfolds : Unfolds nodes right rightTree) :
      Unfolds nodes id (.binary id operator leftTree rightTree)
  | aggregate {id inner : NodeId} {function : AggregateFunction} {scope : Scope}
      {key : AggregateKey} {kind : Kind} {tree : Tree}
      (found : nodes[id]? = some (.aggregate function inner scope key kind))
      (unfolds : Unfolds nodes inner tree) :
      Unfolds nodes id (.aggregate id function tree scope key kind)

/-- A walk over pending nodes, with the keys that it meets: the operands of a node are followed
next, and all nodes are known. -/
inductive Walks (nodes : Array Node) : List NodeId → List AggregateKey → Prop
  | nil : Walks nodes [] []
  | cons {id : NodeId} {node : Node} {pending : List NodeId} {keys : List AggregateKey}
      (found : nodes[id]? = some node) (walks : Walks nodes (node.children ++ pending) keys) :
      Walks nodes (id :: pending) (node.key?.toList ++ keys)

namespace Builder

variable {builder : Builder} (valid : builder.Valid)
include valid

theorem Valid.unfolds {id : NodeId} (known : id < builder.nodes.size) :
    Unfolds builder.nodes id (builder.tree id) := by
  induction id using valid.node_induction with
  | unknown id absent =>
      rw [Array.getElem?_eq_none_iff] at absent
      exact absurd known (Nat.not_lt_of_le absent)
  | literal id value kind found =>
      rw [valid.tree_eq found]
      exact .literal found
  | field id column kind found =>
      rw [valid.tree_eq found]
      exact .field found
  | unary id operator operand found induction =>
      rw [valid.tree_eq found]
      exact .unary found (induction (Nat.lt_trans (valid.node found) known))
  | binary id operator left right found leftInduction rightInduction =>
      rcases valid.node found with ⟨leftBelow, rightBelow⟩
      rw [valid.tree_eq found]
      exact .binary found (leftInduction (Nat.lt_trans leftBelow known))
        (rightInduction (Nat.lt_trans rightBelow known))
  | aggregate id function inner scope key kind found induction =>
      rw [valid.tree_eq found]
      exact .aggregate found (induction (Nat.lt_trans (valid.node found).1 known))

theorem Valid.walks {pending : List NodeId} (known : ∀ id ∈ pending, id < builder.nodes.size) :
    Walks builder.nodes pending (Program.walkKeys builder.nodes pending) := by
  induction pending using Program.walkKeys.induct builder.nodes with
  | case1 =>
      rw [Program.walkKeys]
      exact .nil
  | case2 id pending absent induction =>
      rw [Array.getElem?_eq_none_iff] at absent
      exact absurd (known id List.mem_cons_self) (Nat.not_lt_of_le absent)
  | case3 id pending node found induction =>
      have below (child : NodeId) (member : child ∈ node.children) : child < id :=
        valid.child_lt found member
      have operands : Program.operandsBelow id node = node.children :=
        List.filter_eq_self.mpr fun child member => decide_eq_true (below child member)
      rw [operands] at induction
      rw [Program.walkKeys, found]
      dsimp only
      rw [operands]
      refine .cons found (induction ?_)
      intro other member
      rcases List.mem_append.mp member with isChild | isPending
      · exact Nat.lt_trans (below other isChild) (lt_of_node found)
      · exact known other (List.mem_cons_of_mem _ isPending)

end Builder

/-! ## Keys that can be reached -/

theorem Tree.keys_treeAt (id : NodeId) (operand : NodeId → Tree) (node : Node) :
    (node.treeAt id operand).keys =
      node.key?.toList ++ node.children.flatMap fun child => (operand child).keys := by
  cases node <;> simp [Node.treeAt, keys, Node.key?, Node.children]

namespace Builder

variable {builder : Builder}

theorem Reaches.keys_subset {root id : NodeId} (reached : builder.Reaches root id)
    (valid : builder.Valid) : (builder.tree id).keys ⊆ (builder.tree root).keys := by
  induction reached with
  | root => exact List.Subset.refl _
  | operand _ found member induction =>
      intro key inChild
      apply induction
      rw [valid.tree_eq found, Tree.keys_treeAt]
      exact List.mem_append_right _ (List.mem_flatMap.mpr ⟨_, member, inChild⟩)

theorem Valid.key_lt_of_reaches (valid : builder.Valid) {id inner inside : NodeId}
    {function : AggregateFunction} {scope : Scope} {key other : AggregateKey} {kind : Kind}
    {node : Node} (found : builder.nodes[id]? = some (.aggregate function inner scope key kind))
    (reached : builder.Reaches inner inside) (present : builder.nodes[inside]? = some node)
    (own : node.key? = some other) : other < key := by
  rcases valid.node found with ⟨_, _, _, below⟩
  apply below other
  apply reached.keys_subset valid
  rw [valid.tree_eq present, Tree.keys_treeAt, own]
  exact List.mem_cons_self

end Builder

end GroupedReport.Expression
