import GroupedReport.Proofs.Expression.Findings

/-!
# Where folding puts nodes

Once its operands are folded, a node becomes a constant, gives way to one of them, stays where it is
or is added anew. The nodes of a normal tree all stay where they are, and what is found about old
nodes of a folded tree was found before.
-/

namespace GroupedReport.Expression

namespace Builder

variable {builder : Builder}

/-! ## Normal trees -/

theorem run_foldUnary_of_rests {operator : UnaryOperator} {operand : NodeId}
    (rests : Tree.UnaryRests operator (builder.tree operand)) (id : NodeId) :
    ((Build.foldUnary id operator operand operand).run builder).1 = id ∧
      ((Build.foldUnary id operator operand operand).run builder).2.nodes = builder.nodes := by
  rw [Tree.UnaryRests, constant?_tree] at rests
  rw [Build.foldUnary, Build.run_get_bind]
  split
  · rename_i value constant
    split
    · rename_i result computed
      exact absurd computed (rests value result constant)
    · rw [beq_self_eq_true, Build.run_bind, run_reportUnfoldable]
      exact ⟨rfl, nodes_note builder _⟩
  · rw [beq_self_eq_true]
    exact ⟨rfl, rfl⟩

theorem run_foldBinary_of_rests {operator : BinaryOperator} {left right : NodeId}
    (rests : Tree.BinaryRests operator (builder.tree left) (builder.tree right)) (id : NodeId) :
    ((Build.foldBinary id operator left right left right).run builder).1 = id ∧
      ((Build.foldBinary id operator left right left right).run builder).2.nodes =
        builder.nodes := by
  have noResult := @rests.noResult
  have noRight := @rests.noRightIdentity
  have noLeft := @rests.noLeftIdentity
  rw [constant?_tree, constant?_tree] at noResult noRight noLeft
  rw [kind_tree] at noRight noLeft
  rw [Build.foldBinary, Build.run_get_bind, beq_self_eq_true, beq_self_eq_true]
  split
  · rename_i leftValue rightValue leftConstant rightConstant
    split
    · rename_i result computed
      exact absurd computed (noResult leftConstant rightConstant)
    · rw [Build.run_bind, run_reportUnfoldable]
      exact ⟨rfl, nodes_note builder _⟩
  · rename_i constant notConstant rightConstant
    rw [if_neg]
    · exact ⟨rfl, rfl⟩
    · rw [Bool.and_eq_true, beq_iff_eq]
      exact noRight notConstant rightConstant
  · rename_i constant leftConstant notConstant
    rw [if_neg]
    · exact ⟨rfl, rfl⟩
    · rw [Bool.and_eq_true, beq_iff_eq]
      exact noLeft leftConstant notConstant
  · exact ⟨rfl, rfl⟩

theorem Valid.stays_of_foldsTo (valid : builder.Valid) {id : NodeId} {result : NodeId × Builder}
    (folds : Build.FoldsTo id builder result) (known : id < builder.nodes.size)
    (normal : (builder.tree id).IsNormal) :
    result.1 = id ∧ result.2.nodes = builder.nodes := by
  induction folds with
  | literal | field => exact ⟨rfl, rfl⟩
  | @unary _ id operand operator folded found folds induction =>
      have operandKnown := Nat.lt_trans (valid.node found) known
      rw [valid.tree_eq found] at normal
      rcases normal with ⟨operandNormal, rests⟩
      rcases induction valid operandKnown operandNormal with ⟨position, nodes⟩
      have puts := valid.puts_of_foldsTo folds operandKnown
      rw [← puts.within.tree_eq operandKnown] at rests
      rcases run_foldUnary_of_rests rests id with ⟨stays, same⟩
      rw [position]
      exact ⟨stays, same.trans nodes⟩
  | @binary _ id left right operator foldedLeft foldedRight found leftFolds rightFolds
      leftInduction rightInduction =>
      rcases valid.node found with ⟨leftBelow, rightBelow⟩
      have leftKnown := Nat.lt_trans leftBelow known
      have rightKnown := Nat.lt_trans rightBelow known
      rw [valid.tree_eq found] at normal
      rcases normal with ⟨leftNormal, rightNormal, rests⟩
      have leftPuts := valid.puts_of_foldsTo leftFolds leftKnown
      have stillKnown := leftPuts.within.known rightKnown
      have within := leftPuts.within.trans
        (leftPuts.valid.puts_of_foldsTo rightFolds stillKnown).within
      rw [← leftPuts.within.tree_eq rightKnown] at rightNormal
      rcases leftInduction valid leftKnown leftNormal with ⟨leftPosition, leftNodes⟩
      rcases rightInduction leftPuts.valid stillKnown rightNormal with
        ⟨rightPosition, rightNodes⟩
      rw [← within.tree_eq leftKnown, ← within.tree_eq rightKnown] at rests
      rcases run_foldBinary_of_rests rests id with ⟨stays, same⟩
      rw [leftPosition, rightPosition]
      exact ⟨stays, same.trans (rightNodes.trans leftNodes)⟩
  | @aggregate _ id inner function scope key kind folded found folds induction =>
      have innerKnown := Nat.lt_trans (valid.node found).1 known
      rw [valid.tree_eq found] at normal
      rcases induction valid innerKnown normal with ⟨position, nodes⟩
      rw [position, beq_self_eq_true]
      exact ⟨rfl, nodes⟩

/-! ## Nodes that stay -/

end Builder

/-- Where a node is found once its operands are folded: a constant is added for it, one of its
operands takes its place, it stays where it is, or it is added anew. -/
inductive Build.Places (nodes : Array Node) (id : NodeId) (node : Node) :
    NodeId → Array Node → Prop
  | constant (value : Value) (kind : Kind) :
      Places nodes id node nodes.size (nodes.push (.literal value kind))
  | operand {child : NodeId} (member : child ∈ node.children) : Places nodes id node child nodes
  | stays (found : nodes[id]? = some node) : Places nodes id node id nodes
  | added : Places nodes id node nodes.size (nodes.push node)

namespace Builder

open Build (Places)

variable {builder : Builder}

theorem places_rebuild {id : NodeId} {unchanged : Bool} {node : Node}
    (found : unchanged = true → builder.nodes[id]? = some node) :
    Places builder.nodes id node ((Build.rebuild id unchanged node).run builder).1
      ((Build.rebuild id unchanged node).run builder).2.nodes := by
  cases unchanged with
  | true => exact .stays (found rfl)
  | false => exact .added

theorem places_report_rebuild {id : NodeId} {operator : String} {error : OperatorError}
    {unchanged : Bool} {node : Node}
    (found : unchanged = true → builder.nodes[id]? = some node) :
    let result := (do
      Build.reportUnfoldable id operator error
      Build.rebuild id unchanged node : Build NodeId).run builder
    Places builder.nodes id node result.1 result.2.nodes := by
  intro result
  have noted := nodes_note builder (id, Fold.withoutResult operator error)
  have stillFound : unchanged = true →
      (builder.note (id, Fold.withoutResult operator error)).nodes[id]? = some node := by
    rw [noted]
    exact found
  have places := places_rebuild stillFound
  rw [noted] at places
  have equal : result = (Build.rebuild id unchanged node).run
      (builder.note (id, Fold.withoutResult operator error)) := by
    change (do
      Build.reportUnfoldable id operator error
      Build.rebuild id unchanged node : Build NodeId).run builder = _
    rw [Build.run_bind, run_reportUnfoldable]
  rw [equal]
  exact places

theorem places_foldUnary {id operand : NodeId} {operator : UnaryOperator}
    (found : builder.nodes[id]? = some (.unary operator operand)) (folded : NodeId) :
    Places builder.nodes id (.unary operator folded)
      ((Build.foldUnary id operator operand folded).run builder).1
      ((Build.foldUnary id operator operand folded).run builder).2.nodes := by
  have unchanged (same : (folded == operand) = true) :
      builder.nodes[id]? = some (.unary operator folded) := by
    rw [eq_of_beq same]
    exact found
  rw [Build.foldUnary, Build.run_get_bind]
  split
  · split
    · exact .constant _ _
    · exact places_report_rebuild unchanged
  · exact places_rebuild unchanged

theorem places_foldBinary {id left right : NodeId} {operator : BinaryOperator}
    (found : builder.nodes[id]? = some (.binary operator left right))
    (foldedLeft foldedRight : NodeId) :
    Places builder.nodes id (.binary operator foldedLeft foldedRight)
      ((Build.foldBinary id operator left right foldedLeft foldedRight).run builder).1
      ((Build.foldBinary id operator left right foldedLeft foldedRight).run builder).2.nodes := by
  have unchanged (same : (foldedLeft == left && foldedRight == right) = true) :
      builder.nodes[id]? = some (.binary operator foldedLeft foldedRight) := by
    rcases Bool.and_eq_true_iff.mp same with ⟨sameLeft, sameRight⟩
    rw [eq_of_beq sameLeft, eq_of_beq sameRight]
    exact found
  rw [Build.foldBinary, Build.run_get_bind]
  split
  · split
    · exact .constant _ _
    · exact places_report_rebuild unchanged
  · split
    · exact .operand List.mem_cons_self
    · exact places_rebuild unchanged
  · split
    · exact .operand (List.mem_cons_of_mem _ List.mem_cons_self)
    · exact places_rebuild unchanged
  · exact places_rebuild unchanged

theorem tree_of_places {current after : Builder} {id position child : NodeId} {node : Node}
    (places : Places current.nodes id node position after.nodes)
    (known : child < current.nodes.size) : after.tree child = current.tree child := by
  apply Tree.ofNodes_congr
  intro below atMost
  have belowKnown := Nat.ne_of_lt (Nat.lt_of_le_of_lt atMost known)
  generalize after.nodes = nodes at places ⊢
  cases places with
  | operand | stays => rfl
  | constant | added => rw [Array.getElem?_push, if_neg belowKnown]

theorem Valid.findings_of_places (valid : builder.Valid) {current after : Builder}
    (afterValid : after.Valid) {id position : NodeId} {original node : Node}
    (found : builder.nodes[id]? = some original) (within : builder.Within current)
    (places : Places current.nodes id node position after.nodes)
    (ofChildren : ∀ child ∈ node.children, child < current.nodes.size ∧
      ∃ operand ∈ original.children, ∀ finding ∈ (current.tree child).findings,
        finding.1 < builder.nodes.size → finding ∈ (builder.tree operand).findings) :
    ∀ finding ∈ (after.tree position).findings, finding.1 < builder.nodes.size →
      finding ∈ (builder.tree id).findings := by
  intro finding member below
  have treeEqual {child : NodeId} (known : child < current.nodes.size) :
      after.tree child = current.tree child := tree_of_places places known
  have ofChild {child : NodeId} (isChild : child ∈ node.children)
      (inChild : finding ∈ (after.tree child).findings) :
      finding ∈ (builder.tree id).findings := by
    rcases ofChildren child isChild with ⟨childKnown, operand, isOperand, among⟩
    rw [treeEqual childKnown] at inChild
    rw [valid.tree_eq found]
    exact Tree.mem_findings_treeAt.mpr (.inl ⟨operand, isOperand, among finding inChild below⟩)
  generalize equal : after.nodes = nodes at places
  cases places with
  | constant value kind =>
      have isConstant : after.nodes[current.nodes.size]? = some (.literal value kind) := by
        rw [equal]
        exact getElem?_push_size current _
      rw [afterValid.tree_eq isConstant] at member
      cases member
  | operand isChild => exact ofChild isChild member
  | stays stillFound =>
      rw [treeEqual (lt_of_node stillFound), within.tree_eq (lt_of_node found)] at member
      exact member
  | added =>
      have isAdded : after.nodes[current.nodes.size]? = some node := by
        rw [equal]
        exact getElem?_push_size current _
      rw [afterValid.tree_eq isAdded] at member
      rcases Tree.mem_findings_treeAt.mp member with ⟨child, isChild, inChild⟩ | ⟨new, _⟩
      · exact ofChild isChild inChild
      · rw [new] at below
        exact absurd below (Nat.not_lt_of_le within.size_le)

theorem Valid.mem_findings_of_foldsTo (valid : builder.Valid) {id : NodeId}
    {result : NodeId × Builder} (folds : Build.FoldsTo id builder result)
    (known : id < builder.nodes.size) :
    ∀ finding ∈ (result.2.tree result.1).findings, finding.1 < builder.nodes.size →
      finding ∈ (builder.tree id).findings := by
  have puts := valid.puts_of_foldsTo folds known
  induction folds with
  | literal | field => exact fun finding member _ => member
  | @unary _ id operand operator folded found folds induction =>
      have operandKnown := Nat.lt_trans (valid.node found) known
      have operandPuts := valid.puts_of_foldsTo folds operandKnown
      have within := operandPuts.within
      have places := places_foldUnary ((within.node id known).trans found) folded.1
      apply valid.findings_of_places puts.valid found within places
      intro child isChild
      cases List.mem_singleton.mp isChild
      exact ⟨operandPuts.known, operand, List.mem_cons_self,
        induction valid operandKnown operandPuts⟩
  | @binary _ id left right operator foldedLeft foldedRight found leftFolds rightFolds
      leftInduction rightInduction =>
      rcases valid.node found with ⟨leftBelow, rightBelow⟩
      have leftKnown := Nat.lt_trans leftBelow known
      have rightKnown := Nat.lt_trans rightBelow known
      have leftPuts := valid.puts_of_foldsTo leftFolds leftKnown
      have stillKnown := leftPuts.within.known rightKnown
      have rightPuts := leftPuts.valid.puts_of_foldsTo rightFolds stillKnown
      have within := leftPuts.within.trans rightPuts.within
      have places := places_foldBinary ((within.node id known).trans found) foldedLeft.1
        foldedRight.1
      have isRight : right ∈ (Node.binary operator left right).children :=
        List.mem_cons_of_mem _ List.mem_cons_self
      apply valid.findings_of_places puts.valid found within places
      intro child isChild
      rcases List.mem_cons.mp isChild with rfl | isLast
      · refine ⟨rightPuts.within.known leftPuts.known, left, List.mem_cons_self, ?_⟩
        rw [rightPuts.within.tree_eq leftPuts.known]
        exact leftInduction valid leftKnown leftPuts
      · cases List.mem_singleton.mp isLast
        refine ⟨rightPuts.known, right, isRight, fun finding member below => ?_⟩
        -- The right operand is folded among more nodes, the old ones of which count here.
        have inRight := rightInduction leftPuts.valid stillKnown rightPuts finding member
          (leftPuts.within.known below)
        rw [leftPuts.within.tree_eq rightKnown] at inRight
        exact inRight
  | @aggregate _ id inner function scope key kind folded found folds induction =>
      have innerKnown := Nat.lt_trans (valid.node found).1 known
      have innerPuts := valid.puts_of_foldsTo folds innerKnown
      have within := innerPuts.within
      have unchanged (same : (folded.1 == inner) = true) :
          folded.2.nodes[id]? = some (.aggregate function folded.1 scope key kind) := by
        rw [eq_of_beq same]
        exact (within.node id known).trans found
      apply valid.findings_of_places puts.valid found within (places_rebuild unchanged)
      intro child isChild
      cases List.mem_singleton.mp isChild
      exact ⟨innerPuts.known, inner, List.mem_cons_self, induction valid innerKnown innerPuts⟩

end Builder

end GroupedReport.Expression
