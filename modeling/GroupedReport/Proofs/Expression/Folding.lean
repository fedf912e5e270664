import GroupedReport.Expression.Fold
import GroupedReport.Proofs.Expression.Arena

/-!
# The folded tree

What folding makes of a tree is a function of the tree alone, apart from positions. The folded
tree has the kind of the tree and refers to the same columns and aggregates. Folding a node puts
its folded tree into the builder.
-/

namespace GroupedReport.Expression

/-! ## Folding a tree by itself -/

namespace Tree

def foldedUnary (operator : UnaryOperator) (operand : Tree) : Tree :=
  match operand.constant? with
  | some value =>
      match Operator.unary operator value with
      | .ok result => .literal 0 result operator.resultKind
      | .error _ => .unary 0 operator operand
  | none => .unary 0 operator operand

def foldedBinary (operator : BinaryOperator) (left right : Tree) : Tree :=
  match left.constant?, right.constant? with
  | some leftValue, some rightValue =>
      match Operator.binary operator leftValue rightValue with
      | .ok result => .literal 0 result operator.resultKind
      | .error _ => .binary 0 operator left right
  | none, some constant =>
      if Fold.isRightIdentity operator constant && left.kind == operator.resultKind then left
      else .binary 0 operator left right
  | some constant, none =>
      if Fold.isLeftIdentity operator constant && right.kind == operator.resultKind then right
      else .binary 0 operator left right
  | none, none => .binary 0 operator left right

/-- A tree after folding, with its positions taken out. -/
def folded : Tree → Tree
  | unknown id => unknown id
  | literal _ value kind => literal 0 value kind
  | field _ column kind => field 0 column kind
  | unary _ operator operand => foldedUnary operator operand.folded
  | binary _ operator left right => foldedBinary operator left.folded right.folded
  | aggregate _ function inner scope key kind => aggregate 0 function inner.folded scope key kind

theorem foldedUnary_cases (operator : UnaryOperator) (operand : Tree) :
    (∃ value result, operand.constant? = some value ∧
      foldedUnary operator operand = .literal 0 result operator.resultKind) ∨
    foldedUnary operator operand = .unary 0 operator operand := by
  rw [foldedUnary]
  cases operand.constant? with
  | none => exact .inr rfl
  | some value =>
      dsimp only
      cases Operator.unary operator value with
      | ok result => exact .inl ⟨value, result, rfl, rfl⟩
      | error error => exact .inr rfl

theorem foldedBinary_cases (operator : BinaryOperator) (left right : Tree) :
    (∃ leftValue rightValue result, left.constant? = some leftValue ∧
      right.constant? = some rightValue ∧
      foldedBinary operator left right = .literal 0 result operator.resultKind) ∨
    (∃ constant, right.constant? = some constant ∧ left.kind = operator.resultKind ∧
      foldedBinary operator left right = left) ∨
    (∃ constant, left.constant? = some constant ∧ right.kind = operator.resultKind ∧
      foldedBinary operator left right = right) ∨
    foldedBinary operator left right = .binary 0 operator left right := by
  rw [foldedBinary]
  cases left.constant? with
  | none =>
      cases right.constant? with
      | none => exact .inr (.inr (.inr rfl))
      | some constant =>
          dsimp only
          split
          · rename_i guarded
            have kind := eq_of_beq (Bool.and_eq_true_iff.mp guarded).2
            exact .inr (.inl ⟨constant, rfl, kind, rfl⟩)
          · exact .inr (.inr (.inr rfl))
  | some leftValue =>
      cases right.constant? with
      | none =>
          dsimp only
          split
          · rename_i guarded
            have kind := eq_of_beq (Bool.and_eq_true_iff.mp guarded).2
            exact .inr (.inr (.inl ⟨leftValue, rfl, kind, rfl⟩))
          · exact .inr (.inr (.inr rfl))
      | some rightValue =>
          dsimp only
          cases Operator.binary operator leftValue rightValue with
          | ok result => exact .inl ⟨leftValue, rightValue, result, rfl, rfl, rfl⟩
          | error error => exact .inr (.inr (.inr rfl))

@[simp] theorem kind_folded (tree : Tree) : tree.folded.kind = tree.kind := by
  cases tree with
  | unknown | literal | field | aggregate => rfl
  | unary id operator operand =>
      rw [folded]
      rcases foldedUnary_cases operator operand.folded with ⟨_, _, _, equal⟩ | equal <;>
        rw [equal] <;> rfl
  | binary id operator left right =>
      rw [folded]
      rcases foldedBinary_cases operator left.folded right.folded with
        ⟨_, _, _, _, _, equal⟩ | ⟨_, _, kind, equal⟩ | ⟨_, _, kind, equal⟩ | equal <;> rw [equal]
      · rfl
      · exact kind
      · exact kind
      · rfl

@[simp] theorem references_folded (tree : Tree) : tree.folded.references = tree.references := by
  induction tree with
  | unknown | literal | field => rfl
  | unary id operator operand induction =>
      rw [folded, references, ← induction]
      rcases foldedUnary_cases operator operand.folded with ⟨_, _, constant, equal⟩ | equal <;>
        rw [equal, references]
      rw [references_eq_nil_of_constant? constant]
  | binary id operator left right leftInduction rightInduction =>
      rw [folded, references, ← leftInduction, ← rightInduction]
      rcases foldedBinary_cases operator left.folded right.folded with
        ⟨_, _, _, first, second, equal⟩ | ⟨_, second, _, equal⟩ | ⟨_, first, _, equal⟩ | equal <;>
        rw [equal]
      · rw [references_eq_nil_of_constant? first, references_eq_nil_of_constant? second]
        rfl
      · rw [references_eq_nil_of_constant? second, List.append_nil]
      · rw [references_eq_nil_of_constant? first, List.nil_append]
      · rfl
  | aggregate id function inner scope key kind induction =>
      rw [folded, references, induction, references]

@[simp] theorem keys_folded (tree : Tree) : tree.folded.keys = tree.keys := by
  rw [keys_eq_filterMap_references, references_folded, keys_eq_filterMap_references]

@[simp] theorem nesting_folded (tree : Tree) : tree.folded.nesting = tree.nesting := by
  induction tree with
  | unknown | literal | field => rfl
  | unary id operator operand induction =>
      rw [folded, nesting, ← induction]
      rcases foldedUnary_cases operator operand.folded with ⟨_, _, constant, equal⟩ | equal <;>
        rw [equal, nesting]
      rw [nesting_eq_zero_of_constant? constant]
  | binary id operator left right leftInduction rightInduction =>
      rw [folded, nesting, ← leftInduction, ← rightInduction]
      rcases foldedBinary_cases operator left.folded right.folded with
        ⟨_, _, _, first, second, equal⟩ | ⟨_, second, _, equal⟩ | ⟨_, first, _, equal⟩ | equal <;>
        rw [equal]
      · rw [nesting_eq_zero_of_constant? first, nesting_eq_zero_of_constant? second]
        rfl
      · rw [nesting_eq_zero_of_constant? second, Nat.max_zero]
      · rw [nesting_eq_zero_of_constant? first, Nat.zero_max]
      · rfl
  | aggregate id function inner scope key kind induction =>
      rw [folded, nesting, induction, nesting]

end Tree

/-! ## Folding in a builder -/

theorem Build.run_bind (action : Build α) (next : α → Build β) (builder : Builder) :
    (action >>= next).run builder = (next (action.run builder).1).run (action.run builder).2 :=
  rfl

theorem Build.run_get_bind (next : Builder → Build α) (builder : Builder) :
    (get >>= next).run builder = (next builder).run builder := rfl

namespace Builder

/-- What holds of a position and of the builder it is in, if a tree was put into another builder. -/
structure Puts (before : Builder) (tree : Tree) (result : NodeId × Builder) : Prop where
  valid : result.2.Valid
  within : before.Within result.2
  known : result.1 < result.2.nodes.size
  bare : (result.2.tree result.1).bare = tree

theorem Puts.trans {before between : Builder} {tree : Tree} {result : NodeId × Builder}
    (within : before.Within between) (puts : between.Puts tree result) :
    before.Puts tree result :=
  { puts with within := within.trans puts.within }

theorem bare_tree_push {builder : Builder} {node : Node}
    (valid : (builder.push node).Valid) (nodeValid : node.ValidIn builder builder.nodes.size) :
    ((builder.push node).tree builder.nodes.size).bare = (node.treeAt 0 builder.tree).bare := by
  rw [valid.tree_eq (getElem?_push_size builder node)]
  have operand {id : NodeId} (known : id < builder.nodes.size) :
      (builder.push node).tree id = builder.tree id :=
    (within_push builder node).tree_eq known
  cases node with
  | literal | field => rfl
  | unary operator inner =>
      have below : inner < builder.nodes.size := nodeValid
      rw [Node.treeAt, operand below]
      rfl
  | binary operator left right =>
      rcases nodeValid with ⟨leftBelow, rightBelow⟩
      rw [Node.treeAt, operand leftBelow, operand rightBelow]
      rfl
  | aggregate function inner scope key kind =>
      rw [Node.treeAt, operand nodeValid.1]
      rfl

theorem puts_pure {builder : Builder} {id : NodeId} {tree : Tree} (valid : builder.Valid)
    (known : id < builder.nodes.size) (bare : (builder.tree id).bare = tree) :
    builder.Puts tree ((pure id : Build NodeId).run builder) :=
  ⟨valid, .refl builder, known, bare⟩

theorem puts_add {builder : Builder} {node : Node} (valid : builder.Valid)
    (nodeValid : node.ValidIn builder builder.nodes.size) (admitted : builder.Admits node) :
    builder.Puts (node.treeAt 0 builder.tree).bare ((Build.add node).run builder) := by
  have pushed := valid.push nodeValid admitted
  exact
    { valid := pushed
      within := within_push builder node
      known := Nat.lt_of_lt_of_eq (Nat.lt_succ_self _) (size_push builder node).symm
      bare := bare_tree_push pushed nodeValid }

theorem puts_literal {builder : Builder} {value : Value} {kind : Kind} (valid : builder.Valid)
    (fits : value.Fits kind) :
    builder.Puts (.literal 0 value kind) ((Build.add (.literal value kind)).run builder) := by
  have nodeValid : (Node.literal value kind).ValidIn builder builder.nodes.size := fits
  exact puts_add valid nodeValid trivial

theorem puts_rebuild {builder : Builder} {id : NodeId} {unchanged : Bool} {node : Node}
    (valid : builder.Valid) (found : unchanged = true → builder.nodes[id]? = some node)
    (nodeValid : node.ValidIn builder builder.nodes.size) (admitted : builder.Admits node) :
    builder.Puts (node.treeAt 0 builder.tree).bare
      ((Build.rebuild id unchanged node).run builder) := by
  cases unchanged with
  | false => exact puts_add valid nodeValid admitted
  | true =>
      apply puts_pure valid (lt_of_node (found rfl))
      rw [valid.tree_eq (found rfl)]
      cases node <;> rfl

theorem nodes_reportUnfoldable (id : NodeId) (operator : String) (error : OperatorError)
    (builder : Builder) :
    ((Build.reportUnfoldable id operator error).run builder).2.nodes = builder.nodes ∧
      ((Build.reportUnfoldable id operator error).run builder).2.nextKey = builder.nextKey := by
  change (Build.reportUnfoldable id operator error builder).2.nodes = _ ∧
    (Build.reportUnfoldable id operator error builder).2.nextKey = _
  rw [Build.reportUnfoldable]
  split <;> exact ⟨rfl, rfl⟩

theorem puts_report_rebuild {builder : Builder} {id : NodeId} {operator : String}
    {error : OperatorError} {unchanged : Bool} {node : Node} (valid : builder.Valid)
    (found : unchanged = true → builder.nodes[id]? = some node)
    (nodeValid : ∀ {other : Builder}, builder.Within other →
      node.ValidIn other other.nodes.size)
    (admitted : ∀ {other : Builder}, other.Admits node) :
    builder.Puts (node.treeAt 0 builder.tree).bare
      ((do
        Build.reportUnfoldable id operator error
        Build.rebuild id unchanged node : Build NodeId).run builder) := by
  rw [Build.run_bind]
  rcases nodes_reportUnfoldable id operator error builder with ⟨nodes, nextKey⟩
  generalize (Build.reportUnfoldable id operator error).run builder = reported at nodes nextKey
  have within : builder.Within reported.2 := .of_nodes nodes (Nat.le_of_eq nextKey.symm)
  have tree : reported.2.tree = builder.tree := by
    funext id
    rw [Builder.tree, Builder.tree, nodes]
  rw [← tree]
  refine Puts.trans within (puts_rebuild ?_ ?_ (nodeValid within) admitted)
  · exact valid.of_nodes nodes (Nat.le_of_eq nextKey.symm)
  · rw [nodes]
    exact found

section

variable {builder : Builder} {id operand folded : NodeId} {tree : Tree}

theorem constant?_of_bare (bare : (builder.tree folded).bare = tree) :
    builder.constant? folded = tree.constant? := by
  rw [← bare, Tree.constant?_bare, constant?_tree]

theorem kind_of_bare (bare : (builder.tree folded).bare = tree) :
    builder.kind folded = tree.kind := by
  rw [← bare, Tree.kind_bare, kind_tree]

theorem puts_foldUnary {operator : UnaryOperator} (valid : builder.Valid)
    (found : builder.nodes[id]? = some (.unary operator operand))
    (known : folded < builder.nodes.size) (bare : (builder.tree folded).bare = tree) :
    builder.Puts (tree.foldedUnary operator)
      ((Build.foldUnary id operator operand folded).run builder) := by
  have unchanged (same : (folded == operand) = true) :
      builder.nodes[id]? = some (.unary operator folded) := by
    rw [eq_of_beq same]
    exact found
  have kept : ((Node.unary operator folded).treeAt 0 builder.tree).bare =
      .unary 0 operator tree :=
    congrArg (Tree.unary 0 operator) bare
  rw [Build.foldUnary, Build.run_get_bind, constant?_of_bare bare, Tree.foldedUnary]
  cases tree.constant? with
  | none =>
      dsimp only
      rw [← kept]
      exact puts_rebuild valid unchanged known trivial
  | some value =>
      dsimp only
      cases computed : Operator.unary operator value with
      | ok result => exact puts_literal valid (Operator.fits_of_unary computed)
      | error error =>
          dsimp only
          rw [← kept]
          exact puts_report_rebuild valid unchanged (fun within => within.known known) trivial

theorem puts_foldBinary {operator : BinaryOperator} {left right foldedLeft foldedRight : NodeId}
    {leftTree rightTree : Tree} (valid : builder.Valid)
    (found : builder.nodes[id]? = some (.binary operator left right))
    (leftKnown : foldedLeft < builder.nodes.size) (rightKnown : foldedRight < builder.nodes.size)
    (leftBare : (builder.tree foldedLeft).bare = leftTree)
    (rightBare : (builder.tree foldedRight).bare = rightTree) :
    builder.Puts (leftTree.foldedBinary operator rightTree)
      ((Build.foldBinary id operator left right foldedLeft foldedRight).run builder) := by
  have unchanged (same : (foldedLeft == left && foldedRight == right) = true) :
      builder.nodes[id]? = some (.binary operator foldedLeft foldedRight) := by
    rcases Bool.and_eq_true_iff.mp same with ⟨sameLeft, sameRight⟩
    rw [eq_of_beq sameLeft, eq_of_beq sameRight]
    exact found
  have kept : ((Node.binary operator foldedLeft foldedRight).treeAt 0 builder.tree).bare =
      .binary 0 operator leftTree rightTree := by
    rw [← leftBare, ← rightBare]
    rfl
  have rebuilt : builder.Puts (.binary 0 operator leftTree rightTree)
      ((Build.rebuild id (foldedLeft == left && foldedRight == right)
        (.binary operator foldedLeft foldedRight)).run builder) := by
    rw [← kept]
    exact puts_rebuild valid unchanged ⟨leftKnown, rightKnown⟩ trivial
  rw [Build.foldBinary, Build.run_get_bind, constant?_of_bare leftBare,
    constant?_of_bare rightBare, kind_of_bare leftBare, kind_of_bare rightBare,
    Tree.foldedBinary]
  cases leftTree.constant? with
  | none =>
      cases rightTree.constant? with
      | none => exact rebuilt
      | some constant =>
          dsimp only
          split
          · exact puts_pure valid leftKnown leftBare
          · exact rebuilt
  | some leftValue =>
      cases rightTree.constant? with
      | none =>
          dsimp only
          split
          · exact puts_pure valid rightKnown rightBare
          · exact rebuilt
      | some rightValue =>
          dsimp only
          cases computed : Operator.binary operator leftValue rightValue with
          | ok result => exact puts_literal valid (Operator.fits_of_binary computed)
          | error error =>
              dsimp only
              rw [← kept]
              exact puts_report_rebuild valid unchanged
                (fun within => ⟨within.known leftKnown, within.known rightKnown⟩) trivial

end

theorem Valid.puts_foldTree {builder : Builder} (valid : builder.Valid) {id : NodeId}
    (known : id < builder.nodes.size) {current : Builder} (currentValid : current.Valid)
    (within : builder.Within current) :
    current.Puts (builder.tree id).folded ((Build.foldTree (builder.tree id)).run current) := by
  induction id using valid.node_induction generalizing current with
  | unknown id absent =>
      rw [Array.getElem?_eq_none_iff] at absent
      exact absurd known (Nat.not_lt_of_le absent)
  | literal id value kind found =>
      have currentFound := (within.node id known).trans found
      rw [valid.tree_eq found]
      exact puts_pure currentValid (within.known known)
        (congrArg Tree.bare (currentValid.tree_eq currentFound))
  | field id column kind found =>
      have currentFound := (within.node id known).trans found
      rw [valid.tree_eq found]
      exact puts_pure currentValid (within.known known)
        (congrArg Tree.bare (currentValid.tree_eq currentFound))
  | unary id operator operand found induction =>
      have below : operand < id := valid.node found
      have currentFound := (within.node id known).trans found
      have folds := induction (Nat.lt_trans below known) currentValid within
      rw [valid.tree_eq found, Node.treeAt, Tree.folded, Build.foldTree, Build.run_bind, tree,
        Tree.id_ofNodes, ← tree]
      generalize (Build.foldTree (builder.tree operand)).run current = result at folds ⊢
      apply Puts.trans folds.within
      apply puts_foldUnary folds.valid _ folds.known folds.bare
      exact (folds.within.node id (within.known known)).trans currentFound
  | binary id operator left right found leftInduction rightInduction =>
      rcases valid.node found with ⟨leftBelow, rightBelow⟩
      have currentFound := (within.node id known).trans found
      have leftFolds := leftInduction (Nat.lt_trans leftBelow known) currentValid within
      rw [valid.tree_eq found, Node.treeAt, Tree.folded, Build.foldTree, Build.run_bind, tree, tree,
        Tree.id_ofNodes, Tree.id_ofNodes, ← tree, ← tree]
      generalize (Build.foldTree (builder.tree left)).run current = leftResult at leftFolds ⊢
      -- The right operand is folded in the builder that folding the left one has left.
      have rightFolds := rightInduction (Nat.lt_trans rightBelow known) leftFolds.valid
        (within.trans leftFolds.within)
      rw [Build.run_bind]
      generalize (Build.foldTree (builder.tree right)).run leftResult.2 = rightResult
        at rightFolds ⊢
      have both := leftFolds.within.trans rightFolds.within
      apply Puts.trans both
      apply puts_foldBinary rightFolds.valid _ (rightFolds.within.known leftFolds.known)
        rightFolds.known _ rightFolds.bare
      · exact (both.node id (within.known known)).trans currentFound
      · rw [rightFolds.within.tree_eq leftFolds.known]
        exact leftFolds.bare
  | aggregate id function inner scope key kind found induction =>
      rcases valid.node found with ⟨below, kindEqual, fresh, inside⟩
      have currentFound := (within.node id known).trans found
      have folds := induction (Nat.lt_trans below known) currentValid within
      rw [valid.tree_eq found, Node.treeAt, Tree.folded, Build.foldTree, Build.run_bind, tree,
        Tree.id_ofNodes, ← tree]
      generalize (Build.foldTree (builder.tree inner)).run current = result at folds ⊢
      have resultFound := (folds.within.node id (within.known known)).trans currentFound
      have nodeValid : (Node.aggregate function result.1 scope key kind).ValidIn result.2
          result.2.nodes.size := by
        refine ⟨folds.known, ?_, ?_, ?_⟩
        · rw [kind_of_bare folds.bare, Tree.kind_folded, kind_tree]
          exact kindEqual
        · exact Nat.lt_of_lt_of_le fresh (within.trans folds.within).nextKey_le
        · rw [← Tree.keys_bare, folds.bare, Tree.keys_folded]
          exact inside
      have unchanged (same : (result.1 == inner) = true) :
          result.2.nodes[id]? = some (.aggregate function result.1 scope key kind) := by
        rw [eq_of_beq same]
        exact resultFound
      have rebuilt := puts_rebuild folds.valid unchanged nodeValid (folds.valid.agree resultFound)
      rw [Node.treeAt, Tree.bare, folds.bare] at rebuilt
      exact Puts.trans folds.within rebuilt

theorem Valid.puts_fold {builder : Builder} (valid : builder.Valid) {id : NodeId}
    (known : id < builder.nodes.size) :
    builder.Puts (builder.tree id).folded ((Build.fold id).run builder) :=
  valid.puts_foldTree known valid (.refl builder)

end Builder

end GroupedReport.Expression
