import GroupedReport.Proofs.Expression.Building

/-!
# Folding from node to node

Folding goes from a node to its operands, which it finds in the builder as it is by then. It comes
to an end, because operands come before their nodes, and what it ends with is what folding the tree
of the node gives.
-/

namespace GroupedReport.Expression

/-- Folding as a recursion over the nodes of a builder, with the position and the builder that it
ends with. -/
inductive Build.FoldsTo : NodeId → Builder → NodeId × Builder → Prop
  | literal {builder : Builder} {id : NodeId} {value : Value} {kind : Kind}
      (found : builder.nodes[id]? = some (.literal value kind)) :
      FoldsTo id builder (id, builder)
  | field {builder : Builder} {id : NodeId} {column : Nat} {kind : Kind}
      (found : builder.nodes[id]? = some (.field column kind)) :
      FoldsTo id builder (id, builder)
  | unary {builder : Builder} {id operand : NodeId} {operator : UnaryOperator}
      {folded : NodeId × Builder}
      (found : builder.nodes[id]? = some (.unary operator operand))
      (folds : FoldsTo operand builder folded) :
      FoldsTo id builder ((foldUnary id operator operand folded.1).run folded.2)
  | binary {builder : Builder} {id left right : NodeId} {operator : BinaryOperator}
      {foldedLeft foldedRight : NodeId × Builder}
      (found : builder.nodes[id]? = some (.binary operator left right))
      (leftFolds : FoldsTo left builder foldedLeft)
      (rightFolds : FoldsTo right foldedLeft.2 foldedRight) :
      FoldsTo id builder
        ((foldBinary id operator left right foldedLeft.1 foldedRight.1).run foldedRight.2)
  | aggregate {builder : Builder} {id inner : NodeId} {function : AggregateFunction}
      {scope : Scope} {key : AggregateKey} {kind : Kind} {folded : NodeId × Builder}
      (found : builder.nodes[id]? = some (.aggregate function inner scope key kind))
      (folds : FoldsTo inner builder folded) :
      FoldsTo id builder
        ((rebuild id (folded.1 == inner) (.aggregate function folded.1 scope key kind)).run
          folded.2)

theorem Build.FoldsTo.unique {builder : Builder} {id : NodeId} {result other : NodeId × Builder}
    (folds : FoldsTo id builder result) (otherFolds : FoldsTo id builder other) :
    other = result := by
  induction folds generalizing other with
  | literal found | field found =>
      cases otherFolds with
      | literal | field => rfl
      | unary otherFound | binary otherFound | aggregate otherFound =>
          rw [found] at otherFound
          cases otherFound
  | unary found _ induction =>
      cases otherFolds with
      | unary otherFound otherFolds =>
          rw [found] at otherFound
          cases otherFound
          rw [induction otherFolds]
      | literal otherFound | field otherFound | binary otherFound | aggregate otherFound =>
          rw [found] at otherFound
          cases otherFound
  | binary found _ _ leftInduction rightInduction =>
      cases otherFolds with
      | binary otherFound otherLeft otherRight =>
          rw [found] at otherFound
          cases otherFound
          rw [leftInduction otherLeft] at otherRight ⊢
          rw [rightInduction otherRight]
      | literal otherFound | field otherFound | unary otherFound | aggregate otherFound =>
          rw [found] at otherFound
          cases otherFound
  | aggregate found _ induction =>
      cases otherFolds with
      | aggregate otherFound otherFolds =>
          rw [found] at otherFound
          cases otherFound
          rw [induction otherFolds]
      | literal otherFound | field otherFound | unary otherFound | binary otherFound =>
          rw [found] at otherFound
          cases otherFound

namespace Builder

variable {builder : Builder}

theorem Valid.foldsTo_foldTree (valid : builder.Valid) {id : NodeId}
    (known : id < builder.nodes.size) {current : Builder} (currentValid : current.Valid)
    (within : builder.Within current) :
    Build.FoldsTo id current ((Build.foldTree (builder.tree id)).run current) := by
  induction id using valid.node_induction generalizing current with
  | unknown id absent =>
      rw [Array.getElem?_eq_none_iff] at absent
      exact absurd known (Nat.not_lt_of_le absent)
  | literal id value kind found =>
      rw [valid.tree_eq found]
      exact .literal ((within.node id known).trans found)
  | field id column kind found =>
      rw [valid.tree_eq found]
      exact .field ((within.node id known).trans found)
  | unary id operator operand found induction =>
      have operandKnown := Nat.lt_trans (valid.node found) known
      rw [valid.tree_eq found, Node.treeAt, Build.foldTree, Build.run_bind, tree, Tree.id_ofNodes,
        ← tree]
      exact .unary ((within.node id known).trans found)
        (induction operandKnown currentValid within)
  | binary id operator left right found leftInduction rightInduction =>
      rcases valid.node found with ⟨leftBelow, rightBelow⟩
      have leftKnown := Nat.lt_trans leftBelow known
      have leftPuts := valid.puts_foldTree leftKnown currentValid within
      rw [valid.tree_eq found, Node.treeAt, Build.foldTree, Build.run_bind, Build.run_bind, tree,
        tree, Tree.id_ofNodes, Tree.id_ofNodes, ← tree, ← tree]
      exact .binary ((within.node id known).trans found)
        (leftInduction leftKnown currentValid within)
        (rightInduction (Nat.lt_trans rightBelow known) leftPuts.valid
          (within.trans leftPuts.within))
  | aggregate id function inner scope key kind found induction =>
      have innerKnown := Nat.lt_trans (valid.node found).1 known
      rw [valid.tree_eq found, Node.treeAt, Build.foldTree, Build.run_bind, tree, Tree.id_ofNodes,
        ← tree]
      exact .aggregate ((within.node id known).trans found)
        (induction innerKnown currentValid within)

theorem Valid.foldsTo (valid : builder.Valid) {id : NodeId} (known : id < builder.nodes.size) :
    Build.FoldsTo id builder ((Build.fold id).run builder) :=
  valid.foldsTo_foldTree known valid (.refl builder)

theorem Valid.foldsTo_of_fold (valid : builder.Valid) {id : NodeId}
    (known : id < builder.nodes.size) {result : NodeId × Builder}
    (folds : (Build.fold id).run builder = result) : Build.FoldsTo id builder result := by
  rw [← folds]
  exact valid.foldsTo known

theorem Valid.puts_of_foldsTo (valid : builder.Valid) {id : NodeId} {result : NodeId × Builder}
    (folds : Build.FoldsTo id builder result) (known : id < builder.nodes.size) :
    builder.Puts (builder.tree id).folded result := by
  rw [(valid.foldsTo known).unique folds]
  exact valid.puts_fold known

end Builder

end GroupedReport.Expression
