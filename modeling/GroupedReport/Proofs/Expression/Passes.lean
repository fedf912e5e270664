import GroupedReport.Proofs.Evaluation.Folding
import GroupedReport.Proofs.Expression.Placing

/-!
# Folding again

One pass of folding reaches a normal form, and a second pass leaves its nodes alone. A second pass
may report once more what the first one reported: a node that was added anew is not known to be one
that there was a finding about.
-/

namespace GroupedReport

open Expression

namespace Expression

theorem Tree.isNormal_of_treeAt {id child : NodeId} {operand : NodeId → Tree} {node : Node}
    (normal : (node.treeAt id operand).IsNormal) (member : child ∈ node.children) :
    (operand child).IsNormal := by
  cases node with
  | literal | field => cases member
  | unary =>
      cases List.mem_singleton.mp member
      exact normal.1
  | binary =>
      rcases List.mem_cons.mp member with rfl | isLast
      · exact normal.1
      · cases List.mem_singleton.mp isLast
        exact normal.2.1
  | aggregate =>
      cases List.mem_singleton.mp member
      exact normal

namespace Builder

variable {builder : Builder}

/-! ## Nodes that can be reached -/

theorem Reaches.trans {first second third : NodeId} (left : builder.Reaches first second)
    (right : builder.Reaches second third) : builder.Reaches first third := by
  induction right with
  | root => exact left
  | operand _ found member induction => exact induction.operand found member

theorem Reaches.isNormal {root id : NodeId} (reached : builder.Reaches root id)
    (valid : builder.Valid) (normal : (builder.tree root).IsNormal) :
    (builder.tree id).IsNormal := by
  induction reached with
  | root => exact normal
  | operand _ found member induction =>
      rw [valid.tree_eq found] at induction
      exact Tree.isNormal_of_treeAt induction member

theorem node_of_finding? {id : NodeId} {warning : Diagnostic}
    (finding : (builder.tree id).finding? = some warning) :
    ∃ node, builder.nodes[id]? = some node := by
  cases found : builder.nodes[id]? with
  | none =>
      rw [tree_of_absent found] at finding
      cases finding
  | some node => exact ⟨node, rfl⟩

theorem lt_of_finding? {id : NodeId} {warning : Diagnostic}
    (finding : (builder.tree id).finding? = some warning) : id < builder.nodes.size := by
  rcases node_of_finding? finding with ⟨node, found⟩
  exact lt_of_node found

theorem Within.finding? {before after : Builder} (within : before.Within after) {id : NodeId}
    {warning : Diagnostic} (finding : (before.tree id).finding? = some warning) :
    (after.tree id).finding? = some warning := by
  rw [within.tree_eq (lt_of_finding? finding)]
  exact finding

theorem Reaches.findings_subset {root id : NodeId} (reached : builder.Reaches root id)
    (valid : builder.Valid) : (builder.tree id).findings ⊆ (builder.tree root).findings := by
  induction reached with
  | root => exact List.Subset.refl _
  | operand _ found member induction =>
      intro finding ofChild
      apply induction
      rw [valid.tree_eq found]
      exact Tree.mem_findings_treeAt.mpr (.inl ⟨_, member, ofChild⟩)

theorem Valid.mem_findings_iff (valid : builder.Valid) {root id : NodeId} {warning : Diagnostic} :
    (id, warning) ∈ (builder.tree root).findings ↔
      builder.Reaches root id ∧ (builder.tree id).finding? = some warning := by
  constructor
  · intro member
    induction root using Nat.strongRecOn with
    | ind root induction =>
        cases found : builder.nodes[root]? with
        | none =>
            rw [tree_of_absent found] at member
            cases member
        | some node =>
            rw [valid.tree_eq found] at member
            rcases Tree.mem_findings_treeAt.mp member with ⟨child, isChild, ofChild⟩ | ⟨same, own⟩
            · rcases induction child (valid.child_lt found isChild) ofChild with
                ⟨reached, finding⟩
              exact ⟨(Reaches.root.operand found isChild).trans reached, finding⟩
            · cases same
              rw [← valid.tree_eq found] at own
              exact ⟨.root, own⟩
  · rintro ⟨reached, finding⟩
    apply reached.findings_subset valid
    rcases node_of_finding? finding with ⟨node, found⟩
    rw [valid.tree_eq found] at finding ⊢
    exact Tree.mem_findings_treeAt.mpr (.inr ⟨rfl, finding⟩)

/-! ## Marks -/

theorem Step.unfoldable {before after : Builder} (step : before.Step after)
    (valid : before.Valid) :
    after.unfoldable = before.unfoldable ∨
      ∃ root, before.Notes (before.tree root).findings after := by
  cases step with
  | literal | null | field | unary | binary | aggregate | log => exact .inl rfl
  | require child owner element kind known => cases child <;> exact .inl rfl
  | arithmetic operation left right leftKnown rightKnown =>
      rw [Build.arithmetic, run_kind_bind, run_kind_bind]
      split <;> exact .inl rfl
  | negate operand known =>
      rw [Build.negate, run_kind_bind]
      split <;> exact .inl rfl
  | fold root known => exact .inr ⟨root, valid.notes_of_foldsTo (valid.foldsTo known) known⟩

theorem Step.marked {before after : Builder} (step : before.Step after) (valid : before.Valid)
    {id : NodeId} (marked : id ∈ after.unfoldable) :
    id ∈ before.unfoldable ∨
      ∃ warning, (after.tree id).finding? = some warning ∧ warning ∈ after.log := by
  rcases step.unfoldable valid with same | ⟨root, notes⟩
  · rw [same] at marked
    exact .inl marked
  · by_cases old : id ∈ before.unfoldable
    · exact .inl old
    · rw [notes.mem_unfoldable] at marked
      rcases List.mem_map.mp (marked.resolve_left old) with ⟨⟨_, found⟩, inFindings, rfl⟩
      rcases notes.log with ⟨noted, log, _, fromFindings, covers⟩
      -- The finding that was noted is the first one about the node; there is no other.
      rcases List.mem_map.mp (covers _ inFindings old) with ⟨⟨other, warning⟩, inNoted, same⟩
      cases same
      have finding := (valid.mem_findings_iff.mp (fromFindings _ inNoted).1).2
      refine .inr ⟨warning, (step.sound valid).2.finding? finding, ?_⟩
      rw [log]
      exact List.mem_append_right _ (List.mem_map.mpr ⟨_, inNoted, rfl⟩)

theorem Built.finding?_of_marked (built : builder.Built) :
    ∀ id ∈ builder.unfoldable, ∃ warning, (builder.tree id).finding? = some warning := by
  rw [Built] at built
  induction built with
  | refl => exact fun _ => nofun
  | step leads step induction =>
      have valid := Built.valid leads
      intro id marked
      rcases step.marked valid marked with old | ⟨warning, finding, _⟩
      · rcases induction id old with ⟨warning, finding⟩
        exact ⟨warning, (step.sound valid).2.finding? finding⟩
      · exact ⟨warning, finding⟩

/-- A builder that was made from an empty one while nothing was taken out of the log. -/
inductive Unabridged : Builder → Prop
  | start : Unabridged {}
  | step {before after : Builder} :
      Unabridged before → before.Step after → before.log ⊆ after.log → Unabridged after

theorem Unabridged.built (unabridged : builder.Unabridged) : builder.Built := by
  induction unabridged with
  | start => exact .refl
  | step _ step _ induction => exact .step induction step

theorem Unabridged.logged (unabridged : builder.Unabridged) :
    ∀ id ∈ builder.unfoldable, ∃ warning,
      (builder.tree id).finding? = some warning ∧ warning ∈ builder.log := by
  induction unabridged with
  | start => exact fun _ => nofun
  | step unabridged step keeps induction =>
      have valid := unabridged.built.valid
      intro id marked
      rcases step.marked valid marked with old | new
      · rcases induction id old with ⟨warning, finding, inLog⟩
        exact ⟨warning, (step.sound valid).2.finding? finding, keeps inLog⟩
      · exact new

/-! ## Passes -/

section

variable {after : Builder} {root folded : NodeId}

theorem Valid.isNormal_fold (valid : builder.Valid) (known : root < builder.nodes.size)
    (folds : (Build.fold root).run builder = (folded, after)) :
    (after.tree folded).IsNormal := by
  have puts := valid.puts_fold known
  rw [folds] at puts
  rw [← Tree.isNormal_bare, puts.bare]
  exact Tree.isNormal_folded (builder.tree root)

theorem Valid.notes_fold (valid : builder.Valid) (known : root < builder.nodes.size)
    (folds : (Build.fold root).run builder = (folded, after)) :
    builder.Notes (builder.tree root).findings after :=
  valid.notes_of_foldsTo (valid.foldsTo_of_fold known folds) known

theorem Unabridged.warnings_fold (unabridged : builder.Unabridged)
    (known : root < builder.nodes.size)
    (folds : (Build.fold root).run builder = (folded, after)) :
    (after.tree folded).warnings ⊆ after.log := by
  have valid := unabridged.built.valid
  have puts := valid.puts_fold known
  have notes := valid.notes_fold known folds
  have step : builder.Step after := by
    have step := Step.fold root known
    rw [folds] at step
    exact step
  have logged := (unabridged.step step ?_).logged
  · intro warning member
    rw [folds] at puts
    rw [← Tree.warnings_bare, puts.bare, Tree.warnings_folded] at member
    rcases List.mem_map.mp member with ⟨⟨id, _⟩, inFindings, rfl⟩
    have finding := puts.within.finding? (valid.mem_findings_iff.mp inFindings).2
    have marked := notes.mem_unfoldable.mpr (.inr (List.mem_map.mpr ⟨_, inFindings, rfl⟩))
    rcases logged id marked with ⟨warning, same, inLog⟩
    rw [finding] at same
    cases same
    exact inLog
  · rcases notes.log with ⟨noted, log, _⟩
    intro diagnostic old
    rw [log]
    exact List.mem_append_left _ old

theorem Valid.fold_again (valid : builder.Valid) (known : root < builder.nodes.size)
    (folds : (Build.fold root).run builder = (folded, after)) :
    ((Build.fold folded).run after).1 = folded ∧
      ((Build.fold folded).run after).2.nodes = after.nodes := by
  have puts := valid.puts_fold known
  rw [folds] at puts
  exact puts.valid.stays_of_foldsTo (puts.valid.foldsTo puts.known) puts.known
    (valid.isNormal_fold known folds)

theorem Built.lt_of_marked_fold (built : builder.Built) (known : root < builder.nodes.size)
    (folds : (Build.fold root).run builder = (folded, after)) {id : NodeId}
    (marked : id ∈ after.unfoldable) : id < builder.nodes.size := by
  rcases (built.valid.notes_fold known folds).mem_unfoldable.mp marked with old | new
  · rcases built.finding?_of_marked id old with ⟨warning, finding⟩
    exact lt_of_finding? finding
  · rcases List.mem_map.mp new with ⟨⟨_, warning⟩, inFindings, rfl⟩
    exact lt_of_finding? (built.valid.mem_findings_iff.mp inFindings).2

theorem Built.marked_fold_iff (built : builder.Built) (known : root < builder.nodes.size)
    (folds : (Build.fold root).run builder = (folded, after)) {id : NodeId} {warning : Diagnostic}
    (member : (id, warning) ∈ (after.tree folded).findings) :
    id ∈ after.unfoldable ↔ id < builder.nodes.size := by
  constructor
  · exact built.lt_of_marked_fold known folds
  · intro old
    have inFindings := built.valid.mem_findings_of_foldsTo
      (built.valid.foldsTo_of_fold known folds) known (id, warning) member old
    exact (built.valid.notes_fold known folds).mem_unfoldable.mpr
      (.inr (List.mem_map.mpr ⟨_, inFindings, rfl⟩))

theorem Valid.fold_eq_self (valid : builder.Valid) (known : root < builder.nodes.size)
    (normal : (builder.tree root).IsNormal)
    (marked : ∀ finding ∈ (builder.tree root).findings, finding.1 ∈ builder.unfoldable) :
    (Build.fold root).run builder = (root, builder) := by
  rcases valid.stays_of_foldsTo (valid.foldsTo known) known normal with ⟨position, nodes⟩
  have notes := valid.notes_of_foldsTo (valid.foldsTo known) known
  rw [Notes, noteAll_eq_self builder marked, nodes] at notes
  exact Prod.ext position notes

end

/-- Whether nothing can be folded in what can be reached from a node: operators on constants have
no result, and no operator has an identity beside an operand that could take its place. -/
structure IsNormal (builder : Builder) (root : NodeId) : Prop where
  unary {id operand : NodeId} {operator : UnaryOperator} {value : Value} :
    builder.Reaches root id → builder.nodes[id]? = some (.unary operator operand) →
      builder.constant? operand = some value →
        ∃ error, Operator.unary operator value = .error error
  binary {id left right : NodeId} {operator : BinaryOperator} {leftValue rightValue : Value} :
    builder.Reaches root id → builder.nodes[id]? = some (.binary operator left right) →
      builder.constant? left = some leftValue → builder.constant? right = some rightValue →
        ∃ error, Operator.binary operator leftValue rightValue = .error error
  rightIdentity {id left right : NodeId} {operator : BinaryOperator} {constant : Value} :
    builder.Reaches root id → builder.nodes[id]? = some (.binary operator left right) →
      builder.constant? left = none → builder.constant? right = some constant →
        ¬(Fold.isRightIdentity operator constant = true ∧
          builder.kind left = operator.resultKind)
  leftIdentity {id left right : NodeId} {operator : BinaryOperator} {constant : Value} :
    builder.Reaches root id → builder.nodes[id]? = some (.binary operator left right) →
      builder.constant? left = some constant → builder.constant? right = none →
        ¬(Fold.isLeftIdentity operator constant = true ∧
          builder.kind right = operator.resultKind)

/-- Whether there is a warning in the log for every operator on constants that fails in what can be
reached from a node. -/
structure Warns (builder : Builder) (root : NodeId) : Prop where
  unary {id operand : NodeId} {operator : UnaryOperator} {value : Value} {error : OperatorError} :
    builder.Reaches root id → builder.nodes[id]? = some (.unary operator operand) →
      builder.constant? operand = some value → Operator.unary operator value = .error error →
        Fold.withoutResult operator.name error ∈ builder.log
  binary {id left right : NodeId} {operator : BinaryOperator} {leftValue rightValue : Value}
      {error : OperatorError} :
    builder.Reaches root id → builder.nodes[id]? = some (.binary operator left right) →
      builder.constant? left = some leftValue → builder.constant? right = some rightValue →
        Operator.binary operator leftValue rightValue = .error error →
          Fold.withoutResult operator.name error ∈ builder.log

section

variable {root id left right operand : NodeId}

theorem Valid.unaryRests (valid : builder.Valid) (normal : (builder.tree root).IsNormal)
    (reached : builder.Reaches root id) {operator : UnaryOperator}
    (found : builder.nodes[id]? = some (.unary operator operand)) :
    (builder.tree operand).IsNormal ∧ Tree.UnaryRests operator (builder.tree operand) := by
  have normal := reached.isNormal valid normal
  rw [valid.tree_eq found] at normal
  exact normal

theorem Valid.binaryRests (valid : builder.Valid) (normal : (builder.tree root).IsNormal)
    (reached : builder.Reaches root id) {operator : BinaryOperator}
    (found : builder.nodes[id]? = some (.binary operator left right)) :
    (builder.tree left).IsNormal ∧ (builder.tree right).IsNormal ∧
      Tree.BinaryRests operator (builder.tree left) (builder.tree right) := by
  have normal := reached.isNormal valid normal
  rw [valid.tree_eq found] at normal
  exact normal

theorem Valid.isNormal (valid : builder.Valid) (normal : (builder.tree root).IsNormal) :
    builder.IsNormal root where
  unary {_ operand operator value} reached found constant := by
    rcases valid.unaryRests normal reached found with ⟨_, rests⟩
    rw [← constant?_tree] at constant
    cases outcome : Operator.unary operator value with
    | ok result => exact absurd outcome (rests value result constant)
    | error error => exact ⟨error, rfl⟩
  binary {_ left right operator leftValue rightValue} reached found leftConstant rightConstant := by
    rcases valid.binaryRests normal reached found with ⟨_, _, rests⟩
    rw [← constant?_tree] at leftConstant rightConstant
    cases outcome : Operator.binary operator leftValue rightValue with
    | ok result => exact absurd outcome (rests.noResult leftConstant rightConstant)
    | error error => exact ⟨error, rfl⟩
  rightIdentity reached found notConstant constant := by
    rcases valid.binaryRests normal reached found with ⟨_, _, rests⟩
    rw [← constant?_tree] at notConstant constant
    rw [← kind_tree]
    exact rests.noRightIdentity notConstant constant
  leftIdentity reached found constant notConstant := by
    rcases valid.binaryRests normal reached found with ⟨_, _, rests⟩
    rw [← constant?_tree] at notConstant constant
    rw [← kind_tree]
    exact rests.noLeftIdentity constant notConstant

theorem Valid.warns (valid : builder.Valid) (normal : (builder.tree root).IsNormal)
    (logged : (builder.tree root).warnings ⊆ builder.log) : builder.Warns root where
  unary {id operand operator value error} reached found constant failed := by
    rcases valid.unaryRests normal reached found with ⟨operandNormal, _⟩
    have finding : (builder.tree id).finding? =
        some (Fold.withoutResult operator.name error) := by
      rw [valid.tree_eq found, Node.treeAt, Tree.finding?, Tree.unaryResult?,
        operandNormal.constant?_folded, constant?_tree, constant, Option.map_some, failed]
      rfl
    exact logged (List.mem_map.mpr ⟨_, valid.mem_findings_iff.mpr ⟨reached, finding⟩, rfl⟩)
  binary {id left right operator leftValue rightValue error} reached found leftConstant
      rightConstant failed := by
    rcases valid.binaryRests normal reached found with ⟨leftNormal, rightNormal, _⟩
    have finding : (builder.tree id).finding? =
        some (Fold.withoutResult operator.name error) := by
      rw [valid.tree_eq found, Node.treeAt, Tree.finding?, Tree.binaryResult?,
        leftNormal.constant?_folded, rightNormal.constant?_folded, constant?_tree, constant?_tree,
        leftConstant, rightConstant]
      change Fold.finding? _ (some (Operator.binary operator leftValue rightValue)) = _
      rw [failed]
      rfl
    exact logged (List.mem_map.mpr ⟨_, valid.mem_findings_iff.mpr ⟨reached, finding⟩, rfl⟩)

end

end Builder

end Expression

open Builder

/-- Folding reaches a normal form in one pass: it ends, it leaves the nodes that there were, a
second pass changes no nodes, and operators on constants that are left fail and were warned
about. -/
theorem folding_reaches_normal_form {builder after : Builder} {root folded : NodeId}
    (built : builder.Built) (known : root < builder.nodes.size)
    (folds : (Build.fold root).run builder = (folded, after)) :
    Build.FoldsTo root builder (folded, after) ∧
      (∀ id < builder.nodes.size, after.nodes[id]? = builder.nodes[id]?) ∧
      ((Build.fold folded).run after).1 = folded ∧
      ((Build.fold folded).run after).2.nodes = after.nodes ∧
      after.IsNormal folded ∧
      (builder.Unabridged → after.Warns folded) := by
  have valid := built.valid
  have puts := valid.puts_fold known
  rw [folds] at puts
  have normal := valid.isNormal_fold known folds
  rcases valid.fold_again known folds with ⟨position, nodes⟩
  refine ⟨valid.foldsTo_of_fold known folds, puts.within.node, position, nodes,
    puts.valid.isNormal normal, ?_⟩
  intro unabridged
  exact puts.valid.warns normal (unabridged.warnings_fold known folds)

namespace Expression.Builder

def quotient : Builder :=
  { nodes := #[.literal (.int32 1) .int32, .binary (.arithmetic .minus .int32) 0 0,
      .binary (.arithmetic .divide .int32) 0 1] }

theorem unabridged_quotient : quotient.Unabridged := by
  have literal : Unabridged _ := .step .start (.literal (.int32 1)) (List.nil_subset _)
  have difference : Unabridged _ :=
    .step literal (.arithmetic .minus 0 0 (by decide) (by decide)) (List.nil_subset _)
  exact .step difference (.arithmetic .divide 0 1 (by decide) (by decide)) (List.nil_subset _)

theorem fold_quotient :
    (Build.fold 2).run quotient = (4, ((Build.fold 2).run quotient).2) :=
  Prod.ext (by decide +kernel) rfl

end Expression.Builder

/-- The quotient is added anew over a zero, and what is left of it fails. -/
theorem quotient_reaches_normal_form :
    Builder.quotient.Built ∧ 2 < Builder.quotient.nodes.size ∧
      ∃ after, (Build.fold 2).run Builder.quotient = (4, after) ∧ after.IsNormal 4 ∧
        after.Warns 4 := by
  rcases folding_reaches_normal_form unabridged_quotient.built (by decide) fold_quotient with
    ⟨_, _, _, _, normal, warns⟩
  exact ⟨unabridged_quotient.built, by decide, _, fold_quotient, normal,
    warns unabridged_quotient⟩

/-- A second pass warns once more of the nodes that the first one added, and of no others: what it
says was said before. A third pass does nothing at all. -/
theorem second_pass_repeats_warnings {builder after later : Builder} {root folded : NodeId}
    (built : builder.Built) (known : root < builder.nodes.size)
    (folds : (Build.fold root).run builder = (folded, after))
    (again : (Build.fold folded).run after = (folded, later)) :
    (∃ repeated : List (NodeId × Diagnostic),
      later.log = after.log ++ repeated.map Prod.snd ∧
      (repeated.map Prod.fst).Nodup ∧
      (∀ id warning, (id, warning) ∈ repeated ↔
        after.Reaches folded id ∧ builder.nodes.size ≤ id ∧
          (after.tree id).finding? = some warning) ∧
      (builder.Unabridged → ∀ finding ∈ repeated, finding.2 ∈ after.log)) ∧
    (Build.fold folded).run later = (folded, later) := by
  have valid := built.valid
  have puts := valid.puts_fold known
  rw [folds] at puts
  have notes := puts.valid.notes_fold puts.known again
  have nodes := (valid.fold_again known folds).2
  rw [again] at nodes
  constructor
  · -- What is noted are the findings about nodes that are not marked, and those were added.
    rcases notes.log with ⟨repeated, log, distinct, fromFindings, covers⟩
    refine ⟨repeated, log, distinct, ?_, ?_⟩
    · intro id warning
      constructor
      · intro member
        rcases fromFindings _ member with ⟨inFindings, unmarked⟩
        rw [built.marked_fold_iff known folds inFindings] at unmarked
        rcases puts.valid.mem_findings_iff.mp inFindings with ⟨reached, finding⟩
        exact ⟨reached, Nat.le_of_not_lt unmarked, finding⟩
      · rintro ⟨reached, added, finding⟩
        have inFindings := puts.valid.mem_findings_iff.mpr ⟨reached, finding⟩
        have unmarked : id ∉ after.unfoldable := by
          rw [built.marked_fold_iff known folds inFindings]
          exact Nat.not_lt_of_le added
        rcases List.mem_map.mp (covers _ inFindings unmarked) with ⟨⟨_, other⟩, member, rfl⟩
        have same := (puts.valid.mem_findings_iff.mp (fromFindings _ member).1).2
        rw [finding] at same
        cases same
        exact member
    · intro unabridged finding member
      exact unabridged.warnings_fold known folds
        (List.mem_map.mpr ⟨finding, (fromFindings _ member).1, rfl⟩)
  · have within := (puts.valid.puts_fold puts.known).within
    have laterValid := (puts.valid.puts_fold puts.known).valid
    rw [again] at within laterValid
    have treeEqual := within.tree_eq puts.known
    apply laterValid.fold_eq_self (within.known puts.known)
    · rw [treeEqual]
      exact valid.isNormal_fold known folds
    · rw [treeEqual]
      intro finding member
      exact notes.mem_unfoldable.mpr (.inr (List.mem_map.mpr ⟨finding, member, rfl⟩))

/-- The failing quotient that the first pass added is warned about again by the second pass, and
not by the third. -/
theorem quotient_is_warned_about_again :
    Builder.quotient.Built ∧ 2 < Builder.quotient.nodes.size ∧
      ∃ after later, (Build.fold 2).run Builder.quotient = (4, after) ∧
        (Build.fold 4).run after = (4, later) ∧ after.log.length = 1 ∧ later.log.length = 2 ∧
        (Build.fold 4).run later = (4, later) := by
  have again : (Build.fold 4).run ((Build.fold 2).run Builder.quotient).2 =
      (4, ((Build.fold 4).run ((Build.fold 2).run Builder.quotient).2).2) :=
    Prod.ext (by decide +kernel) rfl
  exact ⟨unabridged_quotient.built, by decide, _, _, fold_quotient, again, by decide +kernel,
    by decide +kernel,
    (second_pass_repeats_warnings unabridged_quotient.built (by decide) fold_quotient again).2⟩

/-- A second pass over the quotient is not silent. -/
theorem second_pass_over_quotient_warns :
    Builder.quotient.Built ∧ 2 < Builder.quotient.nodes.size ∧
      ∃ folded after, (Build.fold 2).run Builder.quotient = (folded, after) ∧
        ((Build.fold folded).run after).2.log ≠ after.log := by
  refine ⟨unabridged_quotient.built, by decide, 4, _, fold_quotient, ?_⟩
  intro silent
  have lengths := congrArg List.length silent
  revert lengths
  decide +kernel

end GroupedReport
