import GroupedReport.Proofs.Evaluation.Agreement
import GroupedReport.Proofs.Evaluation.Kinds
import GroupedReport.Proofs.Operator.Identity

/-!
# Folding changes no results

A node and what it was folded to have the same outcome in every run. That needs the kinds of
values: an identity is dropped where the kinds agree, and it is the value that must agree.
-/

namespace GroupedReport

open Expression Evaluate

namespace Expression.Tree

/-- Whether folding drops an operator with these folded operands, because one of them is an
identity and the other one is no constant. -/
def DropsIdentity (operator : BinaryOperator) (left right : Tree) : Prop :=
  (left.constant? = none ∧ ∃ constant, right.constant? = some constant ∧
    Fold.isRightIdentity operator constant = true) ∨
  (right.constant? = none ∧ ∃ constant, left.constant? = some constant ∧
    Fold.isLeftIdentity operator constant = true)

/-- Whether folding a tree drops no operators but those whose identities give back every value. -/
def FoldsExactly : Tree → Prop
  | unknown _ | literal _ _ _ | field _ _ _ => True
  | unary _ _ operand => operand.FoldsExactly
  | binary _ operator left right =>
      left.FoldsExactly ∧ right.FoldsExactly ∧
        (DropsIdentity operator left.folded right.folded → operator.HasExactIdentities)
  | aggregate _ _ inner _ _ _ => inner.FoldsExactly

end Expression.Tree

namespace Engine

variable {invariant : Run → Prop} (engine : Engine)

theorem evaluateTree_bare (tree : Tree) (row? : Option RowId) :
    engine.evaluateTree tree.bare row? = engine.evaluateTree tree row? := by
  induction tree generalizing row? with
  | unknown | literal => rfl
  | field => cases row? <;> rfl
  | unary id operator operand induction =>
      rw [Tree.bare, evaluateTree, evaluateTree, induction]
  | binary id operator left right leftInduction rightInduction =>
      rw [Tree.bare, evaluateTree, evaluateTree, leftInduction, rightInduction]
  | aggregate id function inner scope key kind induction =>
      simp only [Tree.bare, evaluateTree, induction]

theorem evaluateTree_of_constant? {tree : Tree} {value : Value}
    (constant : tree.constant? = some value) (row? : Option RowId) :
    engine.evaluateTree tree row? = pure value := by
  cases tree with
  | literal =>
      cases constant
      rfl
  | _ => cases constant

theorem agree_foldedUnary (operator : UnaryOperator) (operand : Tree) (row? : Option RowId) :
    Agree invariant (engine.evaluateTree (operand.foldedUnary operator) row?)
      (engine.evaluateTree (.unary 0 operator operand) row?) := by
  rw [Tree.foldedUnary]
  split
  · rename_i value constant
    split
    · rename_i result computed
      rw [evaluateTree, evaluateTree, evaluateTree_of_constant? engine constant, pure_bind,
        computed]
      exact agree_refl _
    · exact agree_refl _
  · exact agree_refl _

theorem agree_foldedBinary {operator : BinaryOperator} {left right : Tree} {row? : Option RowId}
    (leftFits : (engine.evaluateTree left row?).Ensures invariant
      (OfValues (Value.Fits · left.kind)))
    (rightFits : (engine.evaluateTree right row?).Ensures invariant
      (OfValues (Value.Fits · right.kind)))
    (exact : Tree.DropsIdentity operator left right → operator.HasExactIdentities) :
    Agree invariant (engine.evaluateTree (left.foldedBinary operator right) row?)
      (engine.evaluateTree (.binary 0 operator left right) row?) := by
  rw [Tree.foldedBinary]
  split
  · rename_i leftValue rightValue leftConstant rightConstant
    split
    · rename_i result computed
      rw [evaluateTree, evaluateTree, evaluateTree_of_constant? engine leftConstant, pure_bind,
        evaluateTree_of_constant? engine rightConstant, pure_bind, computed]
      exact agree_refl _
    · exact agree_refl _
  · rename_i constant notConstant rightConstant
    split
    · rename_i guarded
      rcases Bool.and_eq_true_iff.mp guarded with ⟨identity, kindEqual⟩
      -- The identity fits the kind of the left operand, so the operator gives back what this gives.
      have exact := exact (.inl ⟨notConstant, constant, rightConstant, identity⟩)
      intro run kept
      rcases leftFits run kept with ⟨fits, _⟩
      rw [evaluateTree, run_bind, evaluateTree_of_constant? engine rightConstant]
      rcases equal : (engine.evaluateTree left row?).run run with ⟨_ | value, after⟩
      · rfl
      · rw [equal] at fits
        have valueFits := fits value rfl
        rw [eq_of_beq kindEqual] at valueFits
        dsimp only
        rw [pure_bind, Operator.binary_of_isRightIdentity exact identity valueFits]
        rfl
    · exact agree_refl _
  · rename_i constant leftConstant notConstant
    split
    · rename_i guarded
      rcases Bool.and_eq_true_iff.mp guarded with ⟨identity, kindEqual⟩
      have exact := exact (.inr ⟨notConstant, constant, leftConstant, identity⟩)
      intro run kept
      rcases rightFits run kept with ⟨fits, _⟩
      rw [evaluateTree, evaluateTree_of_constant? engine leftConstant, pure_bind, run_bind]
      rcases equal : (engine.evaluateTree right row?).run run with ⟨_ | value, after⟩
      · rfl
      · rw [equal] at fits
        have valueFits := fits value rfl
        rw [eq_of_beq kindEqual] at valueFits
        dsimp only
        rw [Operator.binary_of_isLeftIdentity exact identity valueFits]
        rfl
    · exact agree_refl _
  · exact agree_refl _

end Engine

namespace Expression.Builder

variable {builder : Builder}

/-- A node and its folded tree have the same outcome in every run that keeps values of the right
kinds. -/
theorem Valid.agree_folded (valid : builder.Valid) (engine : Engine) {id : NodeId}
    (exact : (builder.tree id).FoldsExactly) (row? : Option RowId) :
    Agree (Run.KeepsKinds builder) (engine.evaluateTree (builder.tree id).folded row?)
      (engine.evaluateTree (builder.tree id) row?) := by
  have fits (operand : NodeId) (row? : Option RowId) :
      (engine.evaluateTree (builder.tree operand) row?).Ensures (Run.KeepsKinds builder)
        (OfValues (Value.Fits · (builder.tree operand).folded.kind)) := by
    rw [Tree.kind_folded, kind_tree]
    exact valid.ensures_evaluateTree engine operand row?
  induction id using valid.node_induction generalizing row? with
  | unknown id absent =>
      rw [tree_of_absent absent]
      exact agree_refl _
  | literal id value kind found =>
      rw [valid.tree_eq found]
      exact agree_refl _
  | field id column kind found =>
      rw [valid.tree_eq found]
      cases row? <;> exact agree_refl _
  | unary id operator operand found induction =>
      rw [valid.tree_eq found] at exact ⊢
      exact (engine.agree_foldedUnary operator _ row?).trans ((induction exact row?).before _)
  | binary id operator left right found leftInduction rightInduction =>
      rw [valid.tree_eq found] at exact ⊢
      rcases exact with ⟨leftExact, rightExact, identities⟩
      have leftAgree := leftInduction leftExact row?
      have rightAgree := rightInduction rightExact row?
      apply (engine.agree_foldedBinary (leftAgree.ensures (fits left row?))
        (rightAgree.ensures (fits right row?)) identities).trans
      apply leftAgree.bind (fits left row?)
      intro leftValue _
      exact rightAgree.before _
  | aggregate id function inner scope key kind found induction =>
      rw [valid.tree_eq found] at exact ⊢
      apply Aggregate.agree_evaluate (steady_keepsKinds builder _)
        (fun row => induction exact (some row))
      intro row
      exact (valid.ensures_evaluateTree engine inner (some row)).weaken fun _ _ => trivial

/-! ## Nodes that can be reached -/

inductive Reaches (builder : Builder) (root : NodeId) : NodeId → Prop
  | root : Reaches builder root root
  | operand {id child : NodeId} {node : Node} :
      Reaches builder root id → builder.nodes[id]? = some node → child ∈ node.children →
        Reaches builder root child

def foldedConstant? (builder : Builder) (id : NodeId) : Option Value :=
  let (folded, after) := (Build.fold id).run builder
  after.constant? folded

/-- Whether a constant is equal to zero or to one where it is read as a decimal. -/
def isDecimalZeroOrOne : Value → Bool
  | .decimal value => value.isZero || value.sameNumber .one
  | .int32 value => value == 0 || value == 1
  | _ => false

/-- Whether no operator that can be reached from a root has an operand that is folded to the
empty text, in a concatenation, or to zero or one, in decimal arithmetic, beside an operand that
is not folded to a constant. -/
structure FoldsExactly (builder : Builder) (root : NodeId) : Prop where
  concat {id left right : NodeId} :
    builder.Reaches root id → builder.nodes[id]? = some (.binary .concat left right) →
      ¬(builder.foldedConstant? left = some (.string "") ∧ builder.foldedConstant? right = none) ∧
      ¬(builder.foldedConstant? right = some (.string "") ∧ builder.foldedConstant? left = none)
  decimal {id left right : NodeId} {operation : Arithmetic} {constant : Value} :
    builder.Reaches root id →
      builder.nodes[id]? = some (.binary (.arithmetic operation .decimal) left right) →
        isDecimalZeroOrOne constant = true →
      ¬(builder.foldedConstant? left = some constant ∧ builder.foldedConstant? right = none) ∧
      ¬(builder.foldedConstant? right = some constant ∧ builder.foldedConstant? left = none)

theorem Valid.foldedConstant?_eq (valid : builder.Valid) {id : NodeId}
    (known : id < builder.nodes.size) :
    builder.foldedConstant? id = (builder.tree id).folded.constant? :=
  constant?_of_bare (valid.puts_fold known).bare

theorem eq_of_isEmptyText {constant : Value} (empty : Fold.isEmptyText constant = true) :
    constant = .string "" := by
  cases constant with
  | string text => exact congrArg Value.string (String.isEmpty_iff.mp empty)
  | _ => cases empty

theorem isDecimalZeroOrOne_of_isZero {negative : Bool} {constant : Value}
    (zero : Fold.isZero negative .decimal constant = true) :
    isDecimalZeroOrOne constant = true := by
  cases constant with
  | decimal | int32 => exact Bool.or_eq_true_iff.mpr (.inl zero)
  | _ => cases zero

theorem isDecimalZeroOrOne_of_isOne {constant : Value}
    (one : Fold.isOne .decimal constant = true) : isDecimalZeroOrOne constant = true := by
  cases constant with
  | decimal | int32 => exact Bool.or_eq_true_iff.mpr (.inr one)
  | _ => cases one

theorem isDecimalZeroOrOne_of_identity {operation : Arithmetic} {constant : Value}
    (identity : Fold.isRightIdentity (.arithmetic operation .decimal) constant = true ∨
      Fold.isLeftIdentity (.arithmetic operation .decimal) constant = true) :
    isDecimalZeroOrOne constant = true := by
  cases operation with
  | plus => exact identity.elim isDecimalZeroOrOne_of_isZero isDecimalZeroOrOne_of_isZero
  | minus => exact identity.elim isDecimalZeroOrOne_of_isZero nofun
  | multiply => exact identity.elim isDecimalZeroOrOne_of_isOne isDecimalZeroOrOne_of_isOne
  | divide => exact identity.elim isDecimalZeroOrOne_of_isOne nofun

theorem FoldsExactly.tree {root : NodeId} (exact : builder.FoldsExactly root)
    (valid : builder.Valid) {id : NodeId} (reached : builder.Reaches root id) :
    (builder.tree id).FoldsExactly := by
  induction id using valid.node_induction with
  | unknown id absent =>
      rw [tree_of_absent absent]
      trivial
  | literal id value kind found =>
      rw [valid.tree_eq found]
      trivial
  | field id column kind found =>
      rw [valid.tree_eq found]
      trivial
  | unary id operator operand found induction =>
      rw [valid.tree_eq found]
      exact induction (reached.operand found List.mem_cons_self)
  | binary id operator left right found leftInduction rightInduction =>
      rcases valid.node found with ⟨leftBelow, rightBelow⟩
      have known := lt_of_node found
      have leftConstant := valid.foldedConstant?_eq (Nat.lt_trans leftBelow known)
      have rightConstant := valid.foldedConstant?_eq (Nat.lt_trans rightBelow known)
      rw [valid.tree_eq found]
      refine ⟨leftInduction (reached.operand found List.mem_cons_self),
        rightInduction (reached.operand found (List.mem_cons_of_mem _ List.mem_cons_self)), ?_⟩
      intro drops
      cases operator with
      | compare | and | or => trivial
      | concat =>
          rcases exact.concat reached found with ⟨leftAllowed, rightAllowed⟩
          rw [leftConstant, rightConstant] at leftAllowed rightAllowed
          rcases drops with ⟨none, _, some, empty⟩ | ⟨none, _, some, empty⟩
          · exact rightAllowed ⟨eq_of_isEmptyText empty ▸ some, none⟩
          · exact leftAllowed ⟨eq_of_isEmptyText empty ▸ some, none⟩
      | arithmetic operation numeric =>
          cases numeric with
          | int32 | float64 => trivial
          | decimal =>
              rcases drops with ⟨none, _, some, identity⟩ | ⟨none, _, some, identity⟩
              · have forbidden := (exact.decimal reached found
                  (isDecimalZeroOrOne_of_identity (.inl identity))).2
                rw [leftConstant, rightConstant] at forbidden
                exact forbidden ⟨some, none⟩
              · have forbidden := (exact.decimal reached found
                  (isDecimalZeroOrOne_of_identity (.inr identity))).1
                rw [leftConstant, rightConstant] at forbidden
                exact forbidden ⟨some, none⟩
  | aggregate id function inner scope key kind found induction =>
      rw [valid.tree_eq found]
      exact induction (reached.operand found List.mem_cons_self)

end Expression.Builder

/-- Folding is transparent: in every run that can be reached, a node and what it was folded to
give the same value or the same error and leave the same run, whatever was built after folding. -/
theorem folding_is_transparent {builder after later : Builder} {root folded : NodeId}
    (built : builder.Built) (known : root < builder.nodes.size)
    (exact : builder.FoldsExactly root) (folds : (Build.fold root).run builder = (folded, after))
    (leads : after.LeadsTo later) (number : ProgramId) (data : DataSource) {run : Run}
    (reached : run.Reached (.ofBuilder number later) data) (options : Options)
    (row? : Option RowId) :
    ((later.engine number options).native root row?).run run =
      ((later.engine number options).native folded row?).run run := by
  have puts := built.valid.puts_fold known
  rw [folds] at puts
  rcases leads.sound puts.valid with ⟨laterValid, within⟩
  have rootTree : later.tree root = builder.tree root :=
    (puts.within.trans within).tree_eq known
  have foldedTree : later.tree folded = after.tree folded := within.tree_eq puts.known
  have treeExact := exact.tree built.valid .root
  rw [← rootTree] at treeExact
  have agree := laterValid.agree_folded (later.engine number options) treeExact row? run
    (reached.keepsKinds laterValid)
  rw [rootTree, ← puts.bare, Engine.evaluateTree_bare, ← foldedTree, ← rootTree] at agree
  exact agree.symm

def Expression.Builder.greatestPlusZero : Builder :=
  { nodes := #[.field 0 .int32, .aggregate .max 0 .default 0 .int32, .literal (.int32 0) .int32,
      .binary (.arithmetic .plus .int32) 1 2]
    nextKey := 1 }

/-- Folding drops the zero, and the greatest number is what it was. -/
theorem greatest_plus_zero_is_greatest :
    Builder.greatestPlusZero.Built ∧ Builder.greatestPlusZero.FoldsExactly 3 ∧
      (Build.fold 3).run Builder.greatestPlusZero = (1, Builder.greatestPlusZero) ∧
      ((Builder.greatestPlusZero.engine 0 {}).native 3 none).run (.start DataSet.seven.source) =
        ((Builder.greatestPlusZero.engine 0 {}).native 1 none).run
          (.start DataSet.seven.source) := by
  have built : Builder.greatestPlusZero.Built :=
    .step (.step Builder.built_greatest (.literal (.int32 0)))
      (.arithmetic .plus 1 2 (by decide) (by decide))
  have exact : Builder.greatestPlusZero.FoldsExactly 3 := by
    constructor
    · intro id left right _ found
      match id with
      | 0 | 1 | 2 | 3 | _ + 4 => cases found
    · intro id left right operation constant _ found
      match id with
      | 0 | 1 | 2 | 3 | _ + 4 => cases found
  have folds : (Build.fold 3).run Builder.greatestPlusZero = (1, Builder.greatestPlusZero) := by
    cbv
  exact ⟨built, exact, folds, folding_is_transparent built (by decide) exact folds .refl 0
    DataSet.seven.source .start {} none⟩

end GroupedReport
