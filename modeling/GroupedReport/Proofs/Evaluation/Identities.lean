import GroupedReport.Proofs.Evaluation.Folding
import GroupedReport.Proofs.Evaluation.Visits
import GroupedReport.Proofs.Expression.Findings
import GroupedReport.Proofs.Operator.Side

/-!
# Dropped identities

Folding drops an operator with a constant that it takes as an identity. Where the operator is a
concatenation or decimal arithmetic, the result is not always what the other operand gives: a null
becomes a text, and a number may be written with other places.
-/

namespace GroupedReport

open Expression Evaluate

namespace Side

def node (side : Side) (operator : BinaryOperator) (constant operand : NodeId) : Node :=
  match side with
  | left => .binary operator constant operand
  | right => .binary operator operand constant

def tree (side : Side) (operator : BinaryOperator) (constant operand : Tree) : Tree :=
  match side with
  | left => .binary 0 operator constant operand
  | right => .binary 0 operator operand constant

variable {side : Side} {operator : BinaryOperator} {constant operand : Tree} {value : Value}

theorem bare_tree {builder : Builder} (valid : builder.Valid) {id literal other : NodeId}
    (found : builder.nodes[id]? = some (side.node operator literal other)) :
    (builder.tree id).bare =
      side.tree operator (builder.tree literal).bare (builder.tree other).bare := by
  rw [valid.tree_eq found]
  cases side <;> rfl

theorem below {builder : Builder} (valid : builder.Valid) {id literal other : NodeId}
    (found : builder.nodes[id]? = some (side.node operator literal other)) : other < id := by
  cases side with
  | left => exact (valid.node found).2
  | right => exact (valid.node found).1

theorem folded_tree (isConstant : constant.constant? = some value)
    (notConstant : operand.folded.constant? = none) :
    (side.tree operator constant operand).folded =
      if side.isIdentity operator value && operand.kind == operator.resultKind then operand.folded
      else side.tree operator constant.folded operand.folded := by
  cases constant <;> cases isConstant
  cases side with
  | left =>
      change Tree.foldedBinary operator (.literal 0 _ _) operand.folded = _
      rw [Tree.foldedBinary, notConstant, Tree.kind_folded]
      rfl
  | right =>
      change Tree.foldedBinary operator operand.folded (.literal 0 _ _) = _
      rw [Tree.foldedBinary, notConstant, Tree.kind_folded]
      rfl

theorem folded_tree_of_constants {other result : Value}
    (isConstant : constant.constant? = some value)
    (alsoConstant : operand.folded.constant? = some other)
    (computed : side.binary operator value other = .ok result) :
    (side.tree operator constant operand).folded = .literal 0 result operator.resultKind := by
  cases constant <;> cases isConstant
  cases side with
  | left =>
      rw [binary] at computed
      change Tree.foldedBinary operator (.literal 0 _ _) operand.folded = _
      rw [Tree.foldedBinary, alsoConstant]
      dsimp only [Tree.constant?]
      rw [computed]
  | right =>
      rw [binary] at computed
      change Tree.foldedBinary operator operand.folded (.literal 0 _ _) = _
      rw [Tree.foldedBinary, alsoConstant]
      dsimp only [Tree.constant?]
      rw [computed]

theorem tree_ne (side : Side) (operator : BinaryOperator) (constant operand : Tree) :
    side.tree operator constant operand ≠ operand := by
  intro equal
  have sizes := congrArg sizeOf equal
  cases side <;> simp only [tree, Tree.binary.sizeOf_spec] at sizes <;> omega

theorem run_tree (engine : Engine) (isConstant : constant.constant? = some value)
    (row? : Option RowId) (run : Run) :
    (engine.evaluateTree (side.tree operator constant operand) row?).run run =
      (((engine.evaluateTree operand row?).run run).1.bind fun other =>
          (side.binary operator value other).mapError .ofOperator,
        ((engine.evaluateTree operand row?).run run).2) := by
  cases side with
  | left =>
      rw [tree, Engine.run_binary, Engine.evaluateTree_of_constant? engine isConstant]
      rfl
  | right =>
      rw [tree, Engine.run_binary]
      rcases (engine.evaluateTree operand row?).run run with ⟨_ | other, after⟩
      · rfl
      · dsimp only
        rw [Engine.evaluateTree_of_constant? engine isConstant]
        rfl

end Side

theorem Engine.run_evaluate (engine : Engine) (id : NodeId) (row? : Option RowId) (run : Run) :
    (engine.evaluate id row?).run run =
      (((engine.native id row?).run run).1.map fun value => if value.isAbsent then .null else value,
        ((engine.native id row?).run run).2) :=
  run_bind_pure (engine.native id row?) _ run

/-! ## Empty text -/

namespace Expression.Builder.Valid

section

variable {builder : Builder} {side : Side} {id text literal : NodeId} {run : Run}
  (valid : builder.Valid)
include valid

theorem fits_of_folded_constant? (known : id < builder.nodes.size) {value : Value}
    (isConstant : (builder.tree id).folded.constant? = some value) :
    value.Fits (builder.kind id) := by
  have puts := valid.puts_fold known
  have constant? := constant?_of_bare puts.bare
  have kind := kind_of_bare puts.bare
  rw [Tree.kind_folded, kind_tree] at kind
  rw [isConstant] at constant?
  generalize (Build.fold id).run builder = result at puts constant? kind
  rcases Option.bind_eq_some_iff.mp constant? with ⟨node, found, isLiteral⟩
  rw [← kind, kind_of_node found]
  cases node <;> cases isLiteral
  exact puts.valid.node found

theorem run_evaluate_text (keeps : run.KeepsKinds builder) (isText : builder.kind id = .string)
    (number : ProgramId) (options : Options) (row? : Option RowId) :
    ((builder.engine number options).evaluate id row?).run run =
      ((builder.engine number options).evaluateTree (builder.tree id) row?).run run := by
  have fits := (valid.ensures_evaluateTree (builder.engine number options) id row? run keeps).1
  rw [isText] at fits
  change _ = ((builder.engine number options).native id row?).run run
  change OfValues _ (((builder.engine number options).native id row?).run run).1 at fits
  rw [Engine.run_evaluate]
  rcases equal : ((builder.engine number options).native id row?).run run with ⟨_ | value, after⟩
  · rfl
  · rw [equal] at fits
    rcases (fits value rfl).cases (by decide) with rfl | own
    · rfl
    · cases value <;> cases own
      rfl

variable (found : builder.nodes[id]? = some (side.node .concat literal text))
  (empty : builder.nodes[literal]? = some (.literal (.string "") .string))
include found empty

theorem bare_concat_emptyText :
    (builder.tree id).bare =
      side.tree .concat (.literal 0 (.string "") .string) (builder.tree text).bare := by
  rw [Side.bare_tree valid found, valid.tree_eq empty]
  rfl

variable (isText : builder.kind text = .string)
include isText

theorem run_concat_emptyText (keeps : run.KeepsKinds builder) (engine : Engine)
    (row? : Option RowId) :
    (engine.evaluateTree (builder.tree id) row?).run run =
      (((engine.evaluateTree (builder.tree text) row?).run run).1.map Value.orEmpty,
        ((engine.evaluateTree (builder.tree text) row?).run run).2) := by
  have fits := (valid.ensures_evaluateTree engine text row? run keeps).1
  rw [isText] at fits
  rw [← Engine.evaluateTree_bare, valid.bare_concat_emptyText found empty,
    Side.run_tree engine rfl, Engine.evaluateTree_bare]
  rcases equal : (engine.evaluateTree (builder.tree text) row?).run run with ⟨_ | value, after⟩
  · rfl
  · rw [equal] at fits
    have computed := side.binary_emptyText (fits value rfl)
    dsimp only [Except.bind]
    rw [computed]
    rfl

theorem run_folded_concat_emptyText (engine : Engine) (row? : Option RowId) :
    ((engine.evaluateTree (builder.tree id).folded row?).run run).1 =
      if (builder.tree text).folded.constant?.isSome then
        ((engine.evaluateTree (builder.tree text).folded row?).run run).1.map Value.orEmpty
      else ((engine.evaluateTree (builder.tree text).folded row?).run run).1 := by
  have bare := valid.bare_concat_emptyText found empty
  rw [← Tree.folded_bare (builder.tree id), bare, ← Tree.folded_bare (builder.tree text)]
  cases isConstant : (builder.tree text).bare.folded.constant? with
  | none =>
      rw [Side.folded_tree rfl isConstant, Tree.kind_bare, kind_tree, isText]
      cases side <;> rfl
  | some value =>
      have fits : value.Fits .string := by
        rw [← isText]
        apply valid.fits_of_folded_constant?
          (Nat.lt_trans (Side.below valid found) (lt_of_node found))
        rw [← Tree.folded_bare, isConstant]
      rw [Side.folded_tree_of_constants rfl isConstant (side.binary_emptyText fits),
        Engine.evaluateTree_of_constant? engine isConstant]
      rfl

end

end Expression.Builder.Valid

theorem eq_map_orEmpty_iff {result : Except EvaluationError Value} :
    result = result.map Value.orEmpty ↔ result ≠ .ok .null := by
  rcases result with error | value
  · exact iff_of_true rfl nofun
  · cases value with
    | null => exact iff_of_false nofun (fun different => different rfl)
    | _ => exact iff_of_true rfl nofun

/-- Folding drops an empty text beside a text that is no constant, and then a null stays a null:
without folding, the concatenation makes an empty text of it. What the operands of the text become
by folding is a matter of its own. If that changes nothing, the dropped empty text makes a
difference where the text is null, and nowhere else. -/
theorem dropped_empty_text_leaves_nulls {builder after both later : Builder}
    {id text literal folded foldedText : NodeId} (built : builder.Built) (side : Side)
    (found : builder.nodes[id]? = some (side.node .concat literal text))
    (empty : builder.nodes[literal]? = some (.literal (.string "") .string))
    (isText : builder.kind text = .string)
    (folds : (Build.fold id).run builder = (folded, after))
    (foldsText : (Build.fold text).run after = (foldedText, both)) (leads : both.LeadsTo later)
    (number : ProgramId) (data : DataSource) {run : Run}
    (reached : run.Reached (.ofBuilder number later) data) (options : Options)
    (row? : Option RowId) :
    let result (node : NodeId) := (((later.engine number options).evaluate node row?).run run).1
    result id = (result text).map Value.orEmpty ∧
      result folded =
        (if (later.constant? foldedText).isSome then (result foldedText).map Value.orEmpty
          else result foldedText) ∧
      (builder.FoldsExactly text →
        (result folded = result id ↔
          (later.constant? foldedText).isSome = true ∨ result text ≠ .ok .null)) := by
  have known := Builder.lt_of_node found
  have textKnown := Nat.lt_trans (Side.below built.valid found) known
  -- Both foldings, and what they leave in the last builder.
  have puts := built.valid.puts_fold known
  rw [folds] at puts
  have putsText := puts.valid.puts_fold (puts.within.known textKnown)
  rw [foldsText] at putsText
  rcases leads.sound putsText.valid with ⟨valid, within⟩
  have fromBuilder := (puts.within.trans putsText.within).trans within
  have foldedTree : (later.tree folded).bare = (later.tree id).folded := by
    rw [(putsText.within.trans within).tree_eq puts.known, puts.bare, fromBuilder.tree_eq known]
  have foldedTextTree : (later.tree foldedText).bare = (later.tree text).folded := by
    rw [within.tree_eq putsText.known, putsText.bare, puts.within.tree_eq textKnown,
      fromBuilder.tree_eq textKnown]
  have laterFound := (fromBuilder.node id known).trans found
  have laterEmpty := (fromBuilder.node literal (Builder.lt_of_node empty)).trans empty
  have laterText := (fromBuilder.kind_eq textKnown).trans isText
  have keeps := reached.keepsKinds valid
  -- Each of the four nodes is one of text, and is evaluated as its tree.
  have evaluates {node : NodeId} (isText : later.kind node = .string) :=
    valid.run_evaluate_text keeps isText number options row?
  have evaluatesFolded {node old : NodeId} (isText : later.kind old = .string)
      (bare : (later.tree node).bare = (later.tree old).folded) :
      ((later.engine number options).evaluate node row?).run run =
        ((later.engine number options).evaluateTree (later.tree old).folded row?).run run := by
    rw [evaluates, ← Engine.evaluateTree_bare, bare]
    rw [Builder.kind_of_bare bare, Tree.kind_folded, Builder.kind_tree, isText]
  have idText : later.kind id = .string := by
    rw [Builder.kind_of_node laterFound]
    cases side <;> rfl
  dsimp only
  rw [evaluates idText, evaluates laterText, evaluatesFolded idText foldedTree,
    evaluatesFolded laterText foldedTextTree, Builder.constant?_of_bare foldedTextTree,
    valid.run_concat_emptyText laterFound laterEmpty laterText keeps,
    valid.run_folded_concat_emptyText laterFound laterEmpty laterText]
  refine ⟨rfl, rfl, ?_⟩
  intro exact
  have treeExact := exact.tree built.valid .root
  rw [← fromBuilder.tree_eq textKnown] at treeExact
  rw [valid.agree_folded (later.engine number options) treeExact row? run keeps]
  cases (later.tree text).folded.constant? with
  | none => exact eq_map_orEmpty_iff.trans (by simp)
  | some value => exact iff_of_true rfl (.inl rfl)

def Expression.Builder.openText : Builder :=
  { nodes := #[.field 0 .string, .literal (.string "") .string, .binary .concat 0 1] }

theorem Expression.Builder.built_openText : openText.Built :=
  .step (.step (.step .refl (.field 0 .string)) (.literal (.string "")))
    (.arithmetic .plus 0 1 (by decide) (by decide))

theorem Expression.Builder.fold_openText :
    (Build.fold 2).run openText = (0, openText) ∧ (Build.fold 0).run openText = (0, openText) := by
  constructor <;> cbv

def DataSet.east : DataSet :=
  { name := "Regions", columns := ["region"], rows := [[.string "East"]] }

/-- The empty text makes no difference behind the name of a region. -/
theorem region_stays_without_empty_text :
    Builder.openText.Built ∧ Builder.openText.FoldsExactly 0 ∧
      (((Builder.openText.engine 0 {}).evaluate 0 (some 0)).run (.start DataSet.east.source)).1 =
        (((Builder.openText.engine 0 {}).evaluate 2 (some 0)).run
          (.start DataSet.east.source)).1 := by
  have built := Builder.built_openText
  rcases Builder.fold_openText with ⟨folds, foldsText⟩
  have alone {id : NodeId} (reached : Builder.openText.Reaches 0 id) : id = 0 := by
    induction reached with
    | root => rfl
    | operand _ found member isColumn =>
        cases isColumn
        cases found
        cases member
  have exact : Builder.openText.FoldsExactly 0 := by
    constructor
    · intro id left right reached found
      cases alone reached
      cases found
    · intro id left right operation constant reached found
      cases alone reached
      cases found
  have differs := (dropped_empty_text_leaves_nulls built .right rfl rfl rfl folds foldsText .refl 0
    DataSet.east.source .start {} (some 0)).2.2 exact
  have isText : (((Builder.openText.engine 0 {}).evaluate 0 (some 0)).run
      (.start DataSet.east.source)).1 = .ok (.string "East") := by cbv
  refine ⟨built, exact, differs.mpr (.inr ?_)⟩
  intro isNull
  cases isText.symm.trans isNull

/-- Outside of any row the column is null, and so is what the concatenation is folded to; the
concatenation itself is an empty text. -/
theorem null_loses_empty_text :
    Builder.openText.Built ∧ (Build.fold 2).run Builder.openText = (0, Builder.openText) ∧
      (((Builder.openText.engine 0 {}).evaluate 2 none).run (.start DataSet.east.source)).1 =
        .ok (.string "") ∧
      (((Builder.openText.engine 0 {}).evaluate 0 none).run (.start DataSet.east.source)).1 =
        .ok .null :=
  ⟨Builder.built_openText, Builder.fold_openText.1, by cbv, by cbv⟩

/-! ## Decimal identities -/

namespace Expression.Builder

/-- The tree that a node is folded to, with its positions taken out. -/
def foldedTree (builder : Builder) (id : NodeId) : Tree :=
  let (folded, after) := (Build.fold id).run builder
  (after.tree folded).bare

/-- Whether folding puts into the place of a node what it makes of an operand, which is no
constant. -/
def ReplacesBy (builder : Builder) (id operand : NodeId) : Prop :=
  builder.foldedTree id = builder.foldedTree operand ∧
    (builder.foldedTree operand).constant? = none

theorem Valid.foldedTree_eq {builder : Builder} (valid : builder.Valid) {id : NodeId}
    (known : id < builder.nodes.size) : builder.foldedTree id = (builder.tree id).folded :=
  (valid.puts_fold known).bare

theorem Valid.isIdentity_of_replacesBy {builder : Builder} (valid : builder.Valid) {side : Side}
    {operator : BinaryOperator} {id operand literal : NodeId} {constant : Value} {kind : Kind}
    (found : builder.nodes[id]? = some (side.node operator literal operand))
    (isLiteral : builder.nodes[literal]? = some (.literal constant kind))
    (replaced : builder.ReplacesBy id operand) :
    side.isIdentity operator constant = true ∧ builder.kind operand = operator.resultKind := by
  have known := lt_of_node found
  rcases replaced with ⟨equal, notConstant⟩
  rw [valid.foldedTree_eq (Nat.lt_trans (Side.below valid found) known), ← Tree.folded_bare]
    at equal notConstant
  rw [valid.foldedTree_eq known, ← Tree.folded_bare, Side.bare_tree valid found,
    valid.tree_eq isLiteral, Side.folded_tree rfl notConstant] at equal
  split at equal
  · rename_i guarded
    rcases Bool.and_eq_true_iff.mp guarded with ⟨identity, sameKind⟩
    rw [Tree.kind_bare, kind_tree] at sameKind
    exact ⟨identity, eq_of_beq sameKind⟩
  · exact (side.tree_ne _ _ _ equal).elim

end Expression.Builder

/-- Decimal arithmetic with a constant that folding drops gives the number that the other operand
gives, and the same null or the same error if it gives no number. The number is written the same
way where that is sure to be so; elsewhere a sum, a difference or a product has other places than
the number that is left by folding. -/
theorem dropped_decimal_identity_keeps_number {builder later : Builder}
    {id operand literal : NodeId} {operation : Arithmetic} {constant : Value} {kind : Kind}
    {identity : Decimal} (built : builder.Built) (side : Side)
    (found : builder.nodes[id]? =
      some (side.node (.arithmetic operation .decimal) literal operand))
    (isLiteral : builder.nodes[literal]? = some (.literal constant kind))
    (read : constant.toDecimal = .ok identity) (replaced : builder.ReplacesBy id operand)
    (leads : builder.LeadsTo later) (number : ProgramId) (data : DataSource) {run : Run}
    (reached : run.Reached (.ofBuilder number later) data) (options : Options)
    (row? : Option RowId) :
    let outcome (node : NodeId) := ((later.engine number options).native node row?).run run
    (outcome id).2 = (outcome operand).2 ∧
      (∀ value, (outcome operand).1 = .ok (.decimal value) →
        ∃ result, (outcome id).1 = .ok (.decimal result) ∧ result.sameNumber value = true ∧
          (Decimal.StaysWritten operation side identity value → result = value) ∧
          (operation ≠ .divide → result = value →
            Decimal.StaysWritten operation side identity value)) ∧
      ((∀ value, (outcome operand).1 ≠ .ok (.decimal value)) →
        (outcome id).1 = (outcome operand).1) := by
  rcases leads.sound built.valid with ⟨valid, within⟩
  rcases built.valid.isIdentity_of_replacesBy found isLiteral replaced with ⟨identifies, isDecimal⟩
  rcases Side.toDecimal_of_isIdentity identifies with ⟨notNull, same, readSame, isIdentity⟩
  cases read.symm.trans readSame
  have known := Builder.lt_of_node found
  have operandKnown := Nat.lt_trans (Side.below built.valid found) known
  have fits := (valid.ensures_evaluateTree (later.engine number options) operand row? run
    (reached.keepsKinds valid)).1
  rw [within.kind_eq operandKnown, isDecimal] at fits
  have bare : (later.tree id).bare =
      side.tree (.arithmetic operation .decimal) (.literal 0 constant kind)
        (later.tree operand).bare := by
    rw [within.tree_eq known, within.tree_eq operandKnown, Side.bare_tree built.valid found,
      built.valid.tree_eq isLiteral]
    rfl
  have outcomes : ((later.engine number options).native id row?).run run =
      ((((later.engine number options).native operand row?).run run).1.bind fun other =>
          (side.binary (.arithmetic operation .decimal) constant other).mapError .ofOperator,
        (((later.engine number options).native operand row?).run run).2) := by
    change ((later.engine number options).evaluateTree (later.tree id) row?).run run = _
    rw [← Engine.evaluateTree_bare, bare, Side.run_tree _ rfl, Engine.evaluateTree_bare]
    rfl
  change OfValues _ (((later.engine number options).native operand row?).run run).1 at fits
  dsimp only
  rw [outcomes]
  rcases equal : ((later.engine number options).native operand row?).run run with
    ⟨error | other, after⟩
  · exact ⟨rfl, nofun, fun _ => rfl⟩
  · rw [equal] at fits
    rcases (fits other rfl).cases Kind.noConfusion with rfl | own
    · dsimp only [Except.bind]
      rw [side.binary_null]
      exact ⟨rfl, nofun, fun _ => rfl⟩
    · cases other <;> cases own
      rename_i value
      rcases Side.decimal_identity isIdentity with ⟨result, computed, isSame, written, onlyThere⟩
      refine ⟨rfl, ?_, fun noNumber => absurd rfl (noNumber value)⟩
      rintro _ ⟨⟩
      refine ⟨result, ?_, isSame, written, onlyThere⟩
      dsimp only [Except.bind]
      rw [Side.binary_decimal notNull read computed]
      rfl

def Expression.Builder.timesOne : Builder :=
  { nodes := #[.field 0 .decimal,
      .literal (.decimal ⟨false, 100, 2, by decide, by decide⟩) .decimal,
      .binary (.arithmetic .multiply .decimal) 0 1] }

theorem Expression.Builder.built_timesOne : timesOne.Built :=
  .step (.step (.step .refl (.field 0 .decimal)) (.literal (.decimal _)))
    (.arithmetic .multiply 0 1 (by decide) (by decide))

theorem Expression.Builder.replacesBy_timesOne : timesOne.ReplacesBy 2 0 := by
  constructor <;> cbv

def DataSet.five : DataSet :=
  { name := "Numbers", columns := ["number"],
    rows := [[.decimal (.ofInt32 5)]] }

/-- Five times one is five. -/
theorem five_times_one_is_five :
    Builder.timesOne.Built ∧ Builder.timesOne.ReplacesBy 2 0 ∧
      ∃ result, (((Builder.timesOne.engine 0 {}).native 2 (some 0)).run
          (.start DataSet.five.source)).1 = .ok (.decimal result) ∧
        result.sameNumber ⟨false, 5, 0, by decide, by decide⟩ = true := by
  have keeps := dropped_decimal_identity_keeps_number Builder.built_timesOne .right rfl rfl rfl
    Builder.replacesBy_timesOne .refl 0 DataSet.five.source .start {} (some 0)
  rcases keeps.2.1 _ (by cbv) with ⟨result, computed, same, _⟩
  exact ⟨Builder.built_timesOne, Builder.replacesBy_timesOne, result, computed, same⟩

/-- Five times one is written with the places of the one, and after folding without them. -/
theorem five_times_one_has_places :
    Builder.timesOne.Built ∧ (Build.fold 2).run Builder.timesOne = (0, Builder.timesOne) ∧
      (((Builder.timesOne.engine 0 {}).native 2 (some 0)).run (.start DataSet.five.source)).1 =
        .ok (.decimal ⟨false, 500, 2, by decide, by decide⟩) ∧
      (((Builder.timesOne.engine 0 {}).native 0 (some 0)).run (.start DataSet.five.source)).1 =
        .ok (.decimal ⟨false, 5, 0, by decide, by decide⟩) ∧
      (Value.decimal ⟨false, 500, 2, by decide, by decide⟩).toText = "5.00" ∧
      (Value.decimal ⟨false, 5, 0, by decide, by decide⟩).toText = "5" :=
  ⟨Builder.built_timesOne, by cbv, by cbv, by cbv, by cbv, by cbv⟩

end GroupedReport
