import GroupedReport.Proofs.Evaluation.Origins

/-!
# Comparisons of missing data

Data can be missing in two ways. A comparison with a null is null, but the order of a number and
one that is not a number is an error. Where an expression compares numbers alone, its evaluation
fails for want of an order exactly where it comes to such a comparison.
-/

namespace GroupedReport

open Expression

/-! ## Comparisons without an order -/

/-- Whether a tree compares numbers alone, and has aggregates of numbers alone. -/
def Expression.Tree.comparesNumbers : Tree → Bool
  | .unknown _ | .literal _ _ _ | .field _ _ _ => true
  | .unary _ _ operand => operand.comparesNumbers
  | .binary _ (.compare _) left right =>
      left.kind.isNumeric && right.kind.isNumeric && left.comparesNumbers && right.comparesNumbers
  | .binary _ _ left right => left.comparesNumbers && right.comparesNumbers
  | .aggregate _ _ inner _ _ _ => inner.kind.isNumeric && inner.comparesNumbers

namespace Expression.Tree

variable {id : NodeId} {left right : Tree}

theorem comparesNumbers_operands {operator : BinaryOperator}
    (compares : (binary id operator left right).comparesNumbers = true) :
    left.comparesNumbers = true ∧ right.comparesNumbers = true := by
  cases operator with
  | compare comparison =>
      rw [comparesNumbers, Bool.and_eq_true, Bool.and_eq_true] at compares
      exact ⟨compares.1.2, compares.2⟩
  | _ => exact Bool.and_eq_true_iff.mp compares

theorem isNumeric_operands {comparison : Comparison}
    (compares : (binary id (.compare comparison) left right).comparesNumbers = true) :
    left.kind.isNumeric = true ∧ right.kind.isNumeric = true := by
  rw [comparesNumbers, Bool.and_eq_true, Bool.and_eq_true, Bool.and_eq_true] at compares
  exact compares.1.1

end Expression.Tree

/-- Whether a visit is one of a comparison by the order of two values, neither of them null, of
which one is not a number. -/
inductive Engine.OrdersMissing (engine : Engine) : Visit → Value → Value → Prop
  | intro {id : NodeId} {comparison : Comparison} {left right : Tree} {row? : Option RowId}
      {run between : Run} {leftValue rightValue : Value} :
      comparison.isOrdering = true →
        (engine.evaluateTree left row?).run run = (.ok leftValue, between) →
          ((engine.evaluateTree right row?).run between).1 = .ok rightValue →
            leftValue.isNull = false → rightValue.isNull = false →
              leftValue.isAbsent = true ∨ rightValue.isAbsent = true →
                OrdersMissing engine ⟨.binary id (.compare comparison) left right, row?, run⟩
                  leftValue rightValue

/-- Whether an evaluation comes to a comparison by the order of values of these kinds, of which one
is not a number. -/
def Engine.VisitsMissing (engine : Engine) (first : Visit) (leftKind? rightKind? : Option Kind) :
    Prop :=
  ∃ last leftValue rightValue, engine.Visits first last ∧
    engine.OrdersMissing last leftValue rightValue ∧
    leftValue.kind? = leftKind? ∧ rightValue.kind? = rightKind?

namespace Engine

variable {engine : Engine} {leftKind? rightKind? : Option Kind}

theorem OrdersMissing.eq_error {visit : Visit} {leftValue rightValue : Value}
    (orders : engine.OrdersMissing visit leftValue rightValue) :
    (visit.outcome engine).1 = .error (.notComparable leftValue.kind? rightValue.kind?) := by
  cases orders with
  | intro ordering leftGiven rightGiven leftPresent rightPresent absent =>
      have failed := Operator.binary_eq_notComparable_iff.mpr ⟨⟨_, rfl, ordering⟩, leftPresent,
        rightPresent, Value.compare?_of_isAbsent absent, rfl, rfl⟩
      rw [Visit.outcome, result_binary leftGiven rightGiven, failed]
      rfl

theorem VisitsMissing.eq_error {first : Visit}
    (visits : engine.VisitsMissing first leftKind? rightKind?) :
    (first.outcome engine).1 = .error (.notComparable leftKind? rightKind?) := by
  rcases visits with ⟨last, leftValue, rightValue, visits, orders, rfl, rfl⟩
  exact visits.eq_error orders.eq_error

theorem VisitsMissing.lift {first between : Visit}
    (reaches : ∀ {last}, engine.Visits between last → engine.Visits first last)
    (visits : engine.VisitsMissing between leftKind? rightKind?) :
    engine.VisitsMissing first leftKind? rightKind? := by
  rcases visits with ⟨last, leftValue, rightValue, visits, orders⟩
  exact ⟨last, leftValue, rightValue, reaches visits, orders⟩

end Engine

theorem DataSet.value_ne_notComparable (dataSet : DataSet) (row : RowId) (column : Nat)
    (leftKind? rightKind? : Option Kind) :
    dataSet.value row column ≠ .error (.notComparable leftKind? rightKind?) := by
  intro fails
  rw [value] at fails
  split at fails
  · cases fails
  · split at fails <;> cases fails

theorem Run.bindTo_ne_notComparable (run : Run) (program : ProgramId)
    (leftKind? rightKind? : Option Kind) :
    run.bindTo program ≠ .error (.notComparable leftKind? rightKind?) := by
  intro fails
  rw [bindTo] at fails
  split at fails
  · cases fails
  · split at fails <;> cases fails

theorem EvaluationError.ofOperator_eq_notComparable {error : OperatorError}
    {leftKind? rightKind? : Option Kind}
    (equal : .notComparable leftKind? rightKind? = ofOperator error) :
    error = .notComparable leftKind? rightKind? := by
  cases error <;> cases equal
  rfl

theorem Evaluate.Ensures.and {invariant other : Run → Prop}
    {outcome : Except EvaluationError α → Prop} {action : Evaluate α}
    (first : action.Ensures invariant outcome) (second : action.Ensures other fun _ => True) :
    action.Ensures (fun run => invariant run ∧ other run) outcome :=
  fun run ⟨kept, alsoKept⟩ =>
    ⟨(first run kept).1, (first run kept).2, (second run alsoKept).2⟩

/-! ## Where evaluations lack an order -/

/-- Whether what a run keeps fits a builder, and the run is over some data. -/
def Run.Fits (builder : Builder) (data : DataSource) (run : Run) : Prop :=
  run.KeepsKinds builder ∧ run.data = data

namespace Expression.Builder.Valid

open Evaluate

variable {builder : Builder} {dataSet : DataSet} {engine : Engine} {row? : Option RowId}
  {run : Run} {leftKind? rightKind? : Option Kind} (valid : builder.Valid)
include valid

theorem ensures_evaluateTree_over (engine : Engine) (data : DataSource) (id : NodeId)
    (row? : Option RowId) :
    (engine.evaluateTree (builder.tree id) row?).Ensures (Run.Fits builder data)
      (OfValues (Value.Fits · (builder.kind id))) :=
  (valid.ensures_evaluateTree engine id row?).and (engine.ensures_data data _ row?)

theorem ordersMissing_of_binary {id left right : NodeId} {operator : BinaryOperator}
    (compares :
      (Tree.binary id operator (builder.tree left) (builder.tree right)).comparesNumbers = true)
    (keeps : run.KeepsKinds builder) {leftValue rightValue : Value} {between : Run}
    (leftGiven : (engine.evaluateTree (builder.tree left) row?).run run = (.ok leftValue, between))
    (rightGiven : ((engine.evaluateTree (builder.tree right) row?).run between).1 = .ok rightValue)
    (computed : Operator.binary operator leftValue rightValue =
      .error (.notComparable leftKind? rightKind?)) :
    engine.OrdersMissing ⟨.binary id operator (builder.tree left) (builder.tree right), row?, run⟩
        leftValue rightValue ∧
      leftValue.kind? = leftKind? ∧ rightValue.kind? = rightKind? := by
  rcases Operator.binary_eq_notComparable_iff.mp computed with
    ⟨⟨comparison, rfl, ordering⟩, leftPresent, rightPresent, unordered, kinds⟩
  rcases Tree.isNumeric_operands compares with ⟨leftNumeric, rightNumeric⟩
  rw [kind_tree] at leftNumeric rightNumeric
  rcases valid.ensures_evaluateTree engine left row? run keeps with ⟨leftFits, betweenKeeps⟩
  rw [leftGiven] at leftFits betweenKeeps
  have rightFits := (valid.ensures_evaluateTree engine right row? between betweenKeeps).1
  have absent := (Value.compare?_eq_none_iff (leftFits leftValue rfl)
    (rightFits rightValue rightGiven) leftNumeric rightNumeric).mp unordered
  exact ⟨.intro ordering leftGiven rightGiven leftPresent rightPresent absent, kinds⟩

theorem visitsMissing_binary {id left right : NodeId} {operator : BinaryOperator}
    (compares : ((Node.binary operator left right).treeAt id builder.tree).comparesNumbers = true)
    (fits : run.Fits builder dataSet.source)
    (fromLeft : ∀ {run : Run}, run.Fits builder dataSet.source →
      ((engine.evaluateTree (builder.tree left) row?).run run).1 =
        .error (.notComparable leftKind? rightKind?) →
      engine.VisitsMissing ⟨builder.tree left, row?, run⟩ leftKind? rightKind?)
    (fromRight : ∀ {run : Run}, run.Fits builder dataSet.source →
      ((engine.evaluateTree (builder.tree right) row?).run run).1 =
        .error (.notComparable leftKind? rightKind?) →
      engine.VisitsMissing ⟨builder.tree right, row?, run⟩ leftKind? rightKind?)
    (fails : ((engine.evaluateTree ((Node.binary operator left right).treeAt id builder.tree)
      row?).run run).1 = .error (.notComparable leftKind? rightKind?)) :
    engine.VisitsMissing ⟨(Node.binary operator left right).treeAt id builder.tree, row?, run⟩
      leftKind? rightKind? := by
  rw [Node.treeAt] at compares fails ⊢
  rcases Engine.binary_eq_error_iff.mp fails with fails | ⟨leftValue, between, leftGiven, fails⟩
  · exact (fromLeft fits fails).lift .left
  rcases fails with fails | ⟨rightValue, rightGiven, fails⟩
  · have betweenFits :=
      (valid.ensures_evaluateTree_over engine dataSet.source left row? run fits).2
    rw [leftGiven] at betweenFits
    exact (fromRight betweenFits fails).lift (.right leftGiven)
  · -- Both operands have values, so that the operator itself is to blame.
    rcases Result.mapError_eq_error fails with ⟨error, computed, equal⟩
    rw [EvaluationError.ofOperator_eq_notComparable equal] at computed
    exact ⟨_, leftValue, rightValue, .self _,
      valid.ordersMissing_of_binary compares fits.1 leftGiven rightGiven computed⟩

theorem visitsMissing_aggregate {id inner : NodeId} {function : AggregateFunction} {scope : Scope}
    {key : AggregateKey} {kind : Kind} (numeric : (builder.kind inner).isNumeric = true)
    (fits : run.Fits builder dataSet.source)
    (fromInner : ∀ {row : RowId} {run : Run}, run.Fits builder dataSet.source →
      ((engine.evaluateTree (builder.tree inner) (some row)).run run).1 =
        .error (.notComparable leftKind? rightKind?) →
      engine.VisitsMissing ⟨builder.tree inner, some row, run⟩ leftKind? rightKind?)
    (fails : ((engine.evaluateTree (.aggregate id function (builder.tree inner) scope key kind)
      row?).run run).1 = .error (.notComparable leftKind? rightKind?)) :
    engine.VisitsMissing ⟨.aggregate id function (builder.tree inner) scope key kind, row?, run⟩
      leftKind? rightKind? := by
  rcases Engine.aggregate_eq_error_iff.mp fails with
    foreign | ⟨bound, extent, binds, covers, missing, fails⟩
  · exact (Run.bindTo_ne_notComparable _ _ _ _ foreign).elim
  have searchedFits : (engine.searched bound key).Fits builder dataSet.source := by
    have alike := (Run.alike_bindTo binds).1.trans (bound.alike_searched engine key)
    exact ⟨Run.Steady.searched (steady_keepsKinds builder engine.program.id) binds key fits.1,
      alike.data.trans fits.2⟩
  have each (row : RowId) :=
    valid.ensures_evaluateTree_over engine dataSet.source inner (some row)
  rcases Aggregate.reduce_fails_in_row (Kind.transparent_of_isNumeric numeric) each searchedFits
      fails with
    ⟨earlier, row, later, value, between, equal, ran, failed⟩
  have betweenFits := Aggregate.reduce_keeps (Run.Fits builder dataSet.source)
    (fun row run kept => (each row run kept).2) function earlier searchedFits
  rw [ran] at betweenFits
  exact (fromInner betweenFits failed).lift (.inner binds covers missing equal ran)

/-- Where numbers alone are compared, an evaluation lacks an order of values only if it comes to a
comparison of missing data. -/
theorem visitsMissing_of_error (id : NodeId)
    (compares : (builder.tree id).comparesNumbers = true) (fits : run.Fits builder dataSet.source)
    (fails : ((engine.evaluateTree (builder.tree id) row?).run run).1 =
      .error (.notComparable leftKind? rightKind?)) :
    engine.VisitsMissing ⟨builder.tree id, row?, run⟩ leftKind? rightKind? := by
  induction id using valid.node_induction generalizing row? run with
  | unknown id absent =>
      rw [tree_of_absent absent] at fails
      cases fails
  | literal id value kind found =>
      rw [valid.tree_eq found] at fails
      cases fails
  | field id column kind found =>
      rw [valid.tree_eq found, Node.treeAt] at fails
      cases row? with
      | none => cases fails
      | some row =>
          rw [Engine.run_field, fits.2] at fails
          rcases Result.bind_eq_error_iff.mp fails with fails | ⟨value, _, fails⟩
          · exact (dataSet.value_ne_notComparable _ _ _ _ fails).elim
          · rcases Result.mapError_eq_error fails with ⟨_, _, impossible⟩
            cases impossible
  | unary id operator operand found induction =>
      rw [valid.tree_eq found, Node.treeAt] at fails compares ⊢
      rcases Engine.unary_eq_error_iff.mp fails with fails | ⟨value, _, fails⟩
      · exact (induction compares fits fails).lift .operand
      · rcases Result.mapError_eq_error fails with ⟨error, computed, equal⟩
        rw [EvaluationError.ofOperator_eq_notComparable equal] at computed
        exact (Operator.isOrdered_unary _ _ _ _ computed).elim
  | binary id operator left right found leftInduction rightInduction =>
      rw [valid.tree_eq found] at fails compares ⊢
      rcases Tree.comparesNumbers_operands compares with ⟨leftCompares, rightCompares⟩
      exact valid.visitsMissing_binary compares fits (leftInduction leftCompares)
        (rightInduction rightCompares) fails
  | aggregate id function inner scope key kind found induction =>
      rw [valid.tree_eq found, Node.treeAt] at fails compares ⊢
      rw [Tree.comparesNumbers, Bool.and_eq_true, kind_tree] at compares
      exact valid.visitsMissing_aggregate compares.1 fits (induction compares.2) fails

theorem compare_ok_or_ordersMissing {id left right : NodeId} {comparison : Comparison}
    (found : builder.nodes[id]? = some (.binary (.compare comparison) left right))
    (compares : (builder.tree id).comparesNumbers = true) (keeps : run.KeepsKinds builder)
    {leftValue rightValue : Value} {between : Run}
    (leftGiven : (engine.evaluateTree (builder.tree left) row?).run run = (.ok leftValue, between))
    (rightGiven : ((engine.evaluateTree (builder.tree right) row?).run between).1 =
      .ok rightValue) :
    (∃ result, ((engine.evaluateTree (builder.tree id) row?).run run).1 = .ok result) ∨
      engine.OrdersMissing ⟨builder.tree id, row?, run⟩ leftValue rightValue := by
  rw [valid.tree_eq found, Node.treeAt] at compares ⊢
  rcases Operator.binary_compare_cases comparison leftValue rightValue with
    ⟨result, computed⟩ | computed
  · left
    rw [Engine.result_binary leftGiven rightGiven, computed]
    exact ⟨result, rfl⟩
  · exact .inr (valid.ordersMissing_of_binary compares keeps leftGiven rightGiven computed).1

end Expression.Builder.Valid

theorem Engine.evaluateAs_eq_notComparable_iff {engine : Engine} {kind : Kind} {id : NodeId}
    {row? : Option RowId} {run : Run} {leftKind? rightKind? : Option Kind} :
    ((engine.evaluateAs kind id row?).run run).1 = .error (.notComparable leftKind? rightKind?) ↔
      ((engine.native id row?).run run).1 = .error (.notComparable leftKind? rightKind?) := by
  rw [run_evaluateAs]
  refine Iff.trans Result.bind_eq_error_iff ⟨?_, .inl⟩
  rintro (fails | ⟨value, _, fails⟩)
  · exact fails
  · split at fails
    · cases fails
    · rcases Result.mapError_eq_error fails with ⟨_, _, impossible⟩
      cases impossible

/-- Where an expression compares numbers alone, and has aggregates of numbers alone, missing data
makes it fail for want of an order exactly where it comes to a comparison by the order of two values
that are not null, one of which is not a number. Any other comparison of numbers that have values
has a value. -/
theorem unordered_only_where_missing {builder : Builder} (built : builder.Built)
    (number : ProgramId) (dataSet : DataSet) {run : Run}
    (reached : run.Reached (.ofBuilder number builder) dataSet.source) {root : NodeId}
    (compares : (builder.tree root).comparesNumbers = true) (options : Options)
    (row? : Option RowId) :
    let engine := builder.engine number options
    (∀ (kind : Kind) (leftKind? rightKind? : Option Kind),
      ((engine.evaluateAs kind root row?).run run).1 =
          .error (.notComparable leftKind? rightKind?) ↔
        engine.VisitsMissing ⟨builder.tree root, row?, run⟩ leftKind? rightKind?) ∧
      ∀ (comparison : Comparison) (left right : NodeId) (leftValue rightValue : Value)
          (between : Run),
        builder.nodes[root]? = some (.binary (.compare comparison) left right) →
          (engine.native left row?).run run = (.ok leftValue, between) →
            ((engine.native right row?).run between).1 = .ok rightValue →
              (∃ result, ((engine.native root row?).run run).1 = .ok result) ∨
                engine.OrdersMissing ⟨builder.tree root, row?, run⟩ leftValue rightValue := by
  have valid := built.valid
  have keeps := reached.keepsKinds valid
  intro engine
  constructor
  · intro kind leftKind? rightKind?
    refine Iff.trans Engine.evaluateAs_eq_notComparable_iff ⟨?_, Engine.VisitsMissing.eq_error⟩
    exact valid.visitsMissing_of_error root compares ⟨keeps, reached.data_eq⟩
  · intro comparison left right leftValue rightValue between found leftGiven rightGiven
    exact valid.compare_ok_or_ordersMissing found compares keeps leftGiven rightGiven

def Expression.Builder.deviationBelowOne : Builder :=
  { nodes := #[.field 0 .int32, .aggregate .stdevp 0 .default 0 .float64,
      .literal (.int32 1) .int32, .binary (.compare .less) 1 2]
    nextKey := 1 }

theorem Expression.Builder.built_deviationBelowOne : deviationBelowOne.Built :=
  .step (.step (.step (.step .refl (.field 0 .int32)) (.aggregate .stdevp 0 .default (by decide)))
    (.literal (.int32 1))) (.binary (.compare .less) 1 2 (by decide) (by decide))

theorem Expression.Builder.comparesNumbers_deviationBelowOne :
    (deviationBelowOne.tree 3).comparesNumbers = true := by cbv

def DataSet.silent : DataSet :=
  { name := "Numbers", columns := ["number"], rows := [[.null]] }

theorem Expression.Builder.run_deviationBelowOne :
    (((deviationBelowOne.engine 0 {}).evaluateAs .object 3 none).run
        (.start DataSet.silent.source)).1 =
      .error (.notComparable (some .float64) (some .int32)) := by
  have found : deviationBelowOne.nodes[3]? = some (.binary (.compare .less) 1 2) := rfl
  have computed : Operator.binary (.compare .less) (.float64 Binary64.notANumber) (.int32 1) =
      .error (.notComparable (some .float64) (some .int32)) :=
    Operator.binary_eq_notComparable_iff.mpr
      ⟨⟨.less, rfl, rfl⟩, rfl, rfl, Value.compare?_of_isAbsent (.inl (by decide +kernel)), rfl, rfl⟩
  apply Engine.evaluateAs_eq_notComparable_iff.mpr
  change (((deviationBelowOne.engine 0 {}).evaluateTree (deviationBelowOne.tree 3) none).run _).1 =
    _
  have leftGiven : (((deviationBelowOne.engine 0 {}).evaluateTree (deviationBelowOne.tree 1)
      none).run (.start DataSet.silent.source)).1 = .ok (.float64 Binary64.notANumber) := by cbv
  have rightGiven (run : Run) : (((deviationBelowOne.engine 0 {}).evaluateTree
      (deviationBelowOne.tree 2) none).run run).1 = .ok (.int32 1) := by cbv
  rw [built_deviationBelowOne.valid.tree_eq found, Node.treeAt,
    Engine.result_binary (Prod.ext leftGiven rfl) (rightGiven _), computed]
  rfl

/-- The comparison with a deviation of no numbers is visited, and is the one that fails. -/
theorem deviation_of_nulls_is_missing :
    Builder.deviationBelowOne.Built ∧ (Builder.deviationBelowOne.tree 3).comparesNumbers = true ∧
      (Builder.deviationBelowOne.engine 0 {}).VisitsMissing
        ⟨Builder.deviationBelowOne.tree 3, none, .start DataSet.silent.source⟩
        (some .float64) (some .int32) := by
  have built := Builder.built_deviationBelowOne
  have compares := Builder.comparesNumbers_deviationBelowOne
  have only := unordered_only_where_missing built 0 DataSet.silent .start compares {} none
  exact ⟨built, compares, (only.1 .object _ _).mp Builder.run_deviationBelowOne⟩

/-- Missing data makes a comparison of numbers fail. -/
theorem deviation_of_nulls_has_no_order :
    Builder.deviationBelowOne.Built ∧ (Builder.deviationBelowOne.tree 3).comparesNumbers = true ∧
      (((Builder.deviationBelowOne.engine 0 {}).evaluateAs .object 3 none).run
        (.start DataSet.silent.source)).1 =
          .error (.notComparable (some .float64) (some .int32)) :=
  ⟨Builder.built_deviationBelowOne, Builder.comparesNumbers_deviationBelowOne,
    Builder.run_deviationBelowOne⟩

end GroupedReport
