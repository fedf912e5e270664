import GroupedReport.Proofs.Expression.Normal
import GroupedReport.Proofs.Expression.Recursion

/-!
# What folding reports

There is a finding about a node if its folded operands are constants without a result. The findings
of a tree are those about its nodes, operands first; folding a tree keeps what they say. Folding
notes them in its builder, unless there is a finding about the same node already, and changes
nothing else but the nodes.
-/

namespace GroupedReport.Expression

/-! ## Findings of a tree -/

namespace Fold

def withoutResult (operator : String) (error : OperatorError) : Diagnostic :=
  .warning .unfoldedConstant
    ("Constant expression '" ++ operator ++ "' could not be folded: " ++ error.message)

/-- What is found about a result that was not needed or could be computed, or about one that
could not. -/
def finding? (operator : String) : Option (Except OperatorError Value) → Option Diagnostic
  | some (.error error) => some (withoutResult operator error)
  | _ => none

end Fold

namespace Tree

def unaryResult? (operator : UnaryOperator) (operand : Tree) :
    Option (Except OperatorError Value) :=
  operand.constant?.map (Operator.unary operator)

def binaryResult? (operator : BinaryOperator) (left right : Tree) :
    Option (Except OperatorError Value) := do
  let leftValue ← left.constant?
  let rightValue ← right.constant?
  some (Operator.binary operator leftValue rightValue)

def finding? : Tree → Option Diagnostic
  | unknown _ | literal _ _ _ | field _ _ _ | aggregate _ _ _ _ _ _ => none
  | unary _ operator operand => Fold.finding? operator.name (unaryResult? operator operand.folded)
  | binary _ operator left right =>
      Fold.finding? operator.name (binaryResult? operator left.folded right.folded)

def findings : Tree → List (NodeId × Diagnostic)
  | unknown _ | literal _ _ _ | field _ _ _ => []
  | tree@(unary id _ operand) => operand.findings ++ (tree.finding?.map (id, ·)).toList
  | tree@(binary id _ left right) =>
      left.findings ++ right.findings ++ (tree.finding?.map (id, ·)).toList
  | aggregate _ _ inner _ _ _ => inner.findings

/-- What the findings of a tree say, whatever the positions of its nodes. -/
def warnings (tree : Tree) : List Diagnostic :=
  tree.findings.map Prod.snd

@[simp] theorem folded_bare (tree : Tree) : tree.bare.folded = tree.folded := by
  induction tree with
  | unknown | literal | field => rfl
  | unary id operator operand induction => rw [bare, folded, induction, folded]
  | binary id operator left right leftInduction rightInduction =>
      rw [bare, folded, leftInduction, rightInduction, folded]
  | aggregate id function inner scope key kind induction => rw [bare, folded, induction, folded]

theorem IsNormal.constant?_folded {tree : Tree} (normal : tree.IsNormal) :
    tree.folded.constant? = tree.constant? := by
  rw [normal.folded_eq, constant?_bare]

theorem warnings_unary (id : NodeId) (operator : UnaryOperator) (operand : Tree) :
    (unary id operator operand).warnings =
      operand.warnings ++ (finding? (.unary id operator operand)).toList := by
  rw [warnings, findings, List.map_append, warnings]
  cases finding? (.unary id operator operand) <;> rfl

theorem warnings_binary (id : NodeId) (operator : BinaryOperator) (left right : Tree) :
    (binary id operator left right).warnings =
      left.warnings ++ right.warnings ++ (finding? (.binary id operator left right)).toList := by
  rw [warnings, findings, List.map_append, List.map_append, warnings, warnings]
  cases finding? (.binary id operator left right) <;> rfl

@[simp] theorem warnings_bare (tree : Tree) : tree.bare.warnings = tree.warnings := by
  induction tree with
  | unknown | literal | field => rfl
  | unary id operator operand induction =>
      rw [bare, warnings_unary, warnings_unary, induction, finding?, folded_bare, finding?]
  | binary id operator left right leftInduction rightInduction =>
      rw [bare, warnings_binary, warnings_binary, leftInduction, rightInduction, finding?,
        folded_bare, folded_bare, finding?]
  | aggregate id function inner scope key kind induction => exact induction

theorem warnings_eq_nil_of_constant? {tree : Tree} {value : Value}
    (constant : tree.constant? = some value) : tree.warnings = [] := by
  cases tree <;> first | rfl | cases constant

theorem warnings_foldedUnary (operator : UnaryOperator) {operand : Tree}
    (normal : operand.IsNormal) :
    (operand.foldedUnary operator).warnings =
      operand.warnings ++ (Fold.finding? operator.name (unaryResult? operator operand)).toList := by
  have kept : (unary 0 operator operand).warnings =
      operand.warnings ++ (Fold.finding? operator.name (unaryResult? operator operand)).toList := by
    rw [warnings_unary, finding?, unaryResult?, normal.constant?_folded, unaryResult?]
  rw [foldedUnary]
  split
  · rename_i value constant
    split
    · rename_i result computed
      rw [warnings_eq_nil_of_constant? constant, unaryResult?, constant, Option.map_some, computed]
      rfl
    · exact kept
  · exact kept

theorem warnings_foldedBinary (operator : BinaryOperator) {left right : Tree}
    (leftNormal : left.IsNormal) (rightNormal : right.IsNormal) :
    (left.foldedBinary operator right).warnings =
      left.warnings ++ right.warnings ++
        (Fold.finding? operator.name (binaryResult? operator left right)).toList := by
  have kept : (binary 0 operator left right).warnings =
      left.warnings ++ right.warnings ++
        (Fold.finding? operator.name (binaryResult? operator left right)).toList := by
    rw [warnings_binary, finding?, binaryResult?, leftNormal.constant?_folded,
      rightNormal.constant?_folded, binaryResult?]
  rw [foldedBinary]
  split
  · rename_i leftValue rightValue leftConstant rightConstant
    split
    · rename_i result computed
      rw [warnings_eq_nil_of_constant? leftConstant, warnings_eq_nil_of_constant? rightConstant,
        binaryResult?, leftConstant, rightConstant]
      simp only [Option.bind_eq_bind, Option.bind_some, computed]
      rfl
    · exact kept
  · rename_i constant notConstant rightConstant
    split
    · rw [warnings_eq_nil_of_constant? rightConstant, binaryResult?, notConstant]
      simp [Fold.finding?]
    · exact kept
  · rename_i constant leftConstant notConstant
    split
    · rw [warnings_eq_nil_of_constant? leftConstant, binaryResult?, leftConstant, notConstant]
      simp [Fold.finding?]
    · exact kept
  · exact kept

@[simp] theorem warnings_folded (tree : Tree) : tree.folded.warnings = tree.warnings := by
  induction tree with
  | unknown | literal | field => rfl
  | unary id operator operand induction =>
      rw [folded, warnings_foldedUnary operator (isNormal_folded operand), induction,
        warnings_unary, finding?]
  | binary id operator left right leftInduction rightInduction =>
      rw [folded, warnings_foldedBinary operator (isNormal_folded left) (isNormal_folded right),
        leftInduction, rightInduction, warnings_binary, finding?]
  | aggregate id function inner scope key kind induction => exact induction

theorem mem_findings_treeAt {id : NodeId} {operand : NodeId → Tree} {node : Node}
    {finding : NodeId × Diagnostic} :
    finding ∈ (node.treeAt id operand).findings ↔
      (∃ child ∈ node.children, finding ∈ (operand child).findings) ∨
        finding.1 = id ∧ (node.treeAt id operand).finding? = some finding.2 := by
  rcases finding with ⟨position, diagnostic⟩
  have own (finding? : Option Diagnostic) :
      (position, diagnostic) ∈ (finding?.map (id, ·)).toList ↔
        position = id ∧ finding? = some diagnostic := by
    cases finding? <;> simp [eq_comm]
  cases node with
  | literal | field => simp [Node.treeAt, findings, finding?, Node.children]
  | aggregate => simp [Node.treeAt, findings, finding?, Node.children]
  | unary => simp [Node.treeAt, findings, own, Node.children]
  | binary => simp [Node.treeAt, findings, own, Node.children, or_assoc]

end Tree

/-! ## Noting findings -/

namespace Builder

/-- A builder in which a finding about a node is noted, unless there is one about it already. -/
def note (builder : Builder) (finding : NodeId × Diagnostic) : Builder :=
  if builder.unfoldable.contains finding.1 then builder
  else
    { builder with
      log := builder.log ++ [finding.2]
      unfoldable := finding.1 :: builder.unfoldable }

def noteAll (builder : Builder) (findings : List (NodeId × Diagnostic)) : Builder :=
  findings.foldl note builder

def withNodes (builder : Builder) (nodes : Array Node) : Builder :=
  { builder with nodes }

section

variable (builder : Builder)

@[simp] theorem nodes_note (finding : NodeId × Diagnostic) :
    (builder.note finding).nodes = builder.nodes := by
  rw [note]
  split <;> rfl

@[simp] theorem nextKey_note (finding : NodeId × Diagnostic) :
    (builder.note finding).nextKey = builder.nextKey := by
  rw [note]
  split <;> rfl

@[simp] theorem nextKey_noteAll (findings : List (NodeId × Diagnostic)) :
    (builder.noteAll findings).nextKey = builder.nextKey := by
  induction findings generalizing builder with
  | nil => rfl
  | cons finding rest induction => exact (induction _).trans (builder.nextKey_note finding)

theorem note_withNodes (nodes : Array Node) (finding : NodeId × Diagnostic) :
    (builder.withNodes nodes).note finding = (builder.note finding).withNodes nodes := by
  rw [note, note]
  split <;> split <;> first | rfl | contradiction

theorem noteAll_withNodes (nodes : Array Node) (findings : List (NodeId × Diagnostic)) :
    (builder.withNodes nodes).noteAll findings = (builder.noteAll findings).withNodes nodes := by
  induction findings generalizing builder with
  | nil => rfl
  | cons finding rest induction =>
      rw [noteAll, List.foldl_cons, note_withNodes]
      exact induction (builder.note finding)

theorem noteAll_append (first second : List (NodeId × Diagnostic)) :
    builder.noteAll (first ++ second) = (builder.noteAll first).noteAll second :=
  List.foldl_append

theorem mem_unfoldable_note {finding : NodeId × Diagnostic} {id : NodeId} :
    id ∈ (builder.note finding).unfoldable ↔ id ∈ builder.unfoldable ∨ id = finding.1 := by
  rw [note]
  split
  · rename_i already
    constructor
    · exact .inl
    · rintro (old | rfl)
      · exact old
      · exact List.contains_iff_mem.mp already
  · rw [List.mem_cons, or_comm]

theorem mem_unfoldable_noteAll {findings : List (NodeId × Diagnostic)} {id : NodeId} :
    id ∈ (builder.noteAll findings).unfoldable ↔
      id ∈ builder.unfoldable ∨ id ∈ findings.map Prod.fst := by
  induction findings generalizing builder with
  | nil => simp [noteAll]
  | cons finding rest induction =>
      rw [noteAll, List.foldl_cons, List.map_cons, List.mem_cons]
      exact (induction _).trans (by rw [mem_unfoldable_note, or_assoc])

theorem noteAll_eq_self {findings : List (NodeId × Diagnostic)}
    (already : ∀ finding ∈ findings, finding.1 ∈ builder.unfoldable) :
    builder.noteAll findings = builder := by
  induction findings with
  | nil => rfl
  | cons finding rest induction =>
      rw [List.forall_mem_cons] at already
      rw [noteAll, List.foldl_cons, note, if_pos (List.contains_iff_mem.mpr already.1)]
      exact induction already.2

theorem log_noteAll (findings : List (NodeId × Diagnostic)) :
    ∃ noted : List (NodeId × Diagnostic),
      (builder.noteAll findings).log = builder.log ++ noted.map Prod.snd ∧
      (noted.map Prod.fst).Nodup ∧
      (∀ finding ∈ noted, finding ∈ findings ∧ finding.1 ∉ builder.unfoldable) ∧
      ∀ finding ∈ findings, finding.1 ∉ builder.unfoldable → finding.1 ∈ noted.map Prod.fst := by
  induction findings generalizing builder with
  | nil => exact ⟨[], by simp [noteAll]⟩
  | cons finding rest induction =>
      rcases induction (builder.note finding) with ⟨noted, log, distinct, fromRest, covers⟩
      simp only [mem_unfoldable_note, not_or] at fromRest covers
      by_cases already : finding.1 ∈ builder.unfoldable
      · have same : builder.note finding = builder :=
          if_pos (List.contains_iff_mem.mpr already)
        refine ⟨noted, ?_, distinct, ?_, ?_⟩
        · rw [same] at log
          rw [noteAll, List.foldl_cons, same]
          exact log
        · intro other member
          rcases fromRest other member with ⟨inRest, new, _⟩
          exact ⟨List.mem_cons_of_mem _ inRest, new⟩
        · intro other member new
          rcases List.mem_cons.mp member with rfl | inRest
          · exact absurd already new
          · refine covers other inRest ⟨new, ?_⟩
            intro same
            exact new (same ▸ already)
      · have logged : (builder.note finding).log = builder.log ++ [finding.2] := by
          rw [note, if_neg (fun contains => already (List.contains_iff_mem.mp contains))]
        refine ⟨finding :: noted, ?_, ?_, ?_, ?_⟩
        · rw [noteAll, List.foldl_cons, List.map_cons, ← List.singleton_append, ← List.append_assoc,
            ← logged]
          exact log
        · rw [List.map_cons, List.nodup_cons]
          refine ⟨?_, distinct⟩
          intro member
          rcases List.mem_map.mp member with ⟨other, inNoted, same⟩
          exact (fromRest other inNoted).2.2 same
        · rw [List.forall_mem_cons]
          refine ⟨⟨List.mem_cons_self, already⟩, ?_⟩
          intro other member
          rcases fromRest other member with ⟨inRest, new, _⟩
          exact ⟨List.mem_cons_of_mem _ inRest, new⟩
        · intro other member new
          rw [List.map_cons, List.mem_cons]
          rcases List.mem_cons.mp member with rfl | inRest
          · exact .inl rfl
          · by_cases same : other.1 = finding.1
            · exact .inl same
            · exact .inr (covers other inRest ⟨new, same⟩)

end

/-! ## Folding -/

theorem run_reportUnfoldable (builder : Builder) (id : NodeId) (operator : String)
    (error : OperatorError) :
    (Build.reportUnfoldable id operator error).run builder =
      ((), builder.note (id, Fold.withoutResult operator error)) := by
  change Build.reportUnfoldable id operator error builder = _
  rw [Build.reportUnfoldable, note]
  split <;> rfl

/-- Whether a builder is another one in which findings were noted and nodes were added. -/
def Notes (before : Builder) (findings : List (NodeId × Diagnostic)) (after : Builder) : Prop :=
  after = (before.noteAll findings).withNodes after.nodes

theorem Notes.trans {first second third : Builder} {old new : List (NodeId × Diagnostic)}
    (left : first.Notes old second) (right : second.Notes new third) :
    first.Notes (old ++ new) third := by
  rw [Notes] at left right
  rw [Notes, noteAll_append]
  rw [left, noteAll_withNodes] at right
  exact right

theorem Notes.nextKey_eq {before after : Builder} {findings : List (NodeId × Diagnostic)}
    (notes : before.Notes findings after) : after.nextKey = before.nextKey := by
  rw [notes]
  exact before.nextKey_noteAll findings

theorem Notes.mem_unfoldable {before after : Builder} {findings : List (NodeId × Diagnostic)}
    (notes : before.Notes findings after) {id : NodeId} :
    id ∈ after.unfoldable ↔ id ∈ before.unfoldable ∨ id ∈ findings.map Prod.fst := by
  rw [notes, ← mem_unfoldable_noteAll]
  rfl

theorem Notes.log {before after : Builder} {findings : List (NodeId × Diagnostic)}
    (notes : before.Notes findings after) :
    ∃ noted : List (NodeId × Diagnostic),
      after.log = before.log ++ noted.map Prod.snd ∧
      (noted.map Prod.fst).Nodup ∧
      (∀ finding ∈ noted, finding ∈ findings ∧ finding.1 ∉ before.unfoldable) ∧
      ∀ finding ∈ findings, finding.1 ∉ before.unfoldable → finding.1 ∈ noted.map Prod.fst := by
  rw [notes]
  exact before.log_noteAll findings

theorem notes_nil (builder : Builder) : builder.Notes [] builder := rfl

theorem notes_add (builder : Builder) (node : Node) :
    builder.Notes [] ((Build.add node).run builder).2 := rfl

theorem notes_rebuild (builder : Builder) (id : NodeId) (unchanged : Bool) (node : Node) :
    builder.Notes [] ((Build.rebuild id unchanged node).run builder).2 := by
  cases unchanged <;> rfl

theorem notes_report_rebuild (builder : Builder) (id : NodeId) (operator : String)
    (error : OperatorError) (unchanged : Bool) (node : Node) :
    builder.Notes [(id, Fold.withoutResult operator error)]
      ((do
        Build.reportUnfoldable id operator error
        Build.rebuild id unchanged node : Build NodeId).run builder).2 := by
  rw [Build.run_bind, run_reportUnfoldable]
  cases unchanged <;> rfl

section

variable {builder : Builder}

theorem notes_foldUnary {folded : NodeId} {tree : Tree} (bare : (builder.tree folded).bare = tree)
    (id : NodeId) (operator : UnaryOperator) (operand : NodeId) :
    builder.Notes
      ((Fold.finding? operator.name (tree.unaryResult? operator)).map (id, ·)).toList
      ((Build.foldUnary id operator operand folded).run builder).2 := by
  rw [Build.foldUnary, Build.run_get_bind, constant?_of_bare bare, Tree.unaryResult?]
  cases tree.constant? with
  | none => exact notes_rebuild builder id _ _
  | some value =>
      dsimp only [Option.map_some]
      cases Operator.unary operator value with
      | ok result => exact notes_add builder _
      | error error => exact notes_report_rebuild builder id operator.name error _ _

theorem notes_foldBinary {foldedLeft foldedRight : NodeId} {leftTree rightTree : Tree}
    (leftBare : (builder.tree foldedLeft).bare = leftTree)
    (rightBare : (builder.tree foldedRight).bare = rightTree) (id : NodeId)
    (operator : BinaryOperator) (left right : NodeId) :
    builder.Notes
      ((Fold.finding? operator.name (leftTree.binaryResult? operator rightTree)).map
        (id, ·)).toList
      ((Build.foldBinary id operator left right foldedLeft foldedRight).run builder).2 := by
  rw [Build.foldBinary, Build.run_get_bind, constant?_of_bare leftBare,
    constant?_of_bare rightBare, Tree.binaryResult?]
  cases leftTree.constant? with
  | none =>
      cases rightTree.constant? with
      | none => exact notes_rebuild builder id _ _
      | some constant =>
          dsimp only
          split
          · exact notes_nil builder
          · exact notes_rebuild builder id _ _
  | some leftValue =>
      cases rightTree.constant? with
      | none =>
          dsimp only
          split
          · exact notes_nil builder
          · exact notes_rebuild builder id _ _
      | some rightValue =>
          dsimp only [Option.bind_eq_bind, Option.bind_some]
          cases Operator.binary operator leftValue rightValue with
          | ok result => exact notes_add builder _
          | error error => exact notes_report_rebuild builder id operator.name error _ _

theorem Valid.notes_of_foldsTo (valid : builder.Valid) {id : NodeId} {result : NodeId × Builder}
    (folds : Build.FoldsTo id builder result) (known : id < builder.nodes.size) :
    builder.Notes (builder.tree id).findings result.2 := by
  induction folds with
  | literal found | field found =>
      rw [valid.tree_eq found]
      exact notes_nil _
  | @unary _ id operand operator folded found folds induction =>
      have operandKnown := Nat.lt_trans (valid.node found) known
      have puts := valid.puts_of_foldsTo folds operandKnown
      rw [valid.tree_eq found, Node.treeAt, Tree.findings]
      exact (induction valid operandKnown).trans (notes_foldUnary puts.bare id operator _)
  | @binary _ id left right operator foldedLeft foldedRight found leftFolds rightFolds
      leftInduction rightInduction =>
      rcases valid.node found with ⟨leftBelow, rightBelow⟩
      have leftKnown := Nat.lt_trans leftBelow known
      have rightKnown := Nat.lt_trans rightBelow known
      have leftPuts := valid.puts_of_foldsTo leftFolds leftKnown
      have stillKnown := leftPuts.within.known rightKnown
      have rightPuts := leftPuts.valid.puts_of_foldsTo rightFolds stillKnown
      have rightNotes := rightInduction leftPuts.valid stillKnown
      have rightBare := rightPuts.bare
      have leftBare := leftPuts.bare
      rw [leftPuts.within.tree_eq rightKnown] at rightNotes rightBare
      rw [← rightPuts.within.tree_eq leftPuts.known] at leftBare
      rw [valid.tree_eq found, Node.treeAt, Tree.findings]
      exact ((leftInduction valid leftKnown).trans rightNotes).trans
        (notes_foldBinary leftBare rightBare id operator _ _)
  | @aggregate _ id inner function scope key kind folded found folds induction =>
      have innerKnown := Nat.lt_trans (valid.node found).1 known
      have notes := (induction valid innerKnown).trans
        (notes_rebuild folded.2 id (folded.1 == inner)
          (.aggregate function folded.1 scope key kind))
      rw [List.append_nil] at notes
      rw [valid.tree_eq found, Node.treeAt, Tree.findings]
      exact notes

end

end Builder

end GroupedReport.Expression
