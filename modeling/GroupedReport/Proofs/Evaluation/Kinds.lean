import GroupedReport.Proofs.Evaluation.Reached

/-!
# Kinds of values

Evaluation never looks at kinds, and yet every value it gives is null or of the kind that its node
was declared with. Kept values are values of aggregates, so they need the same said of them.
-/

namespace GroupedReport

open Expression

/-- Whether all that is kept for aggregates fits the kinds of the aggregates with these keys. -/
structure Run.KeepsKinds (builder : Builder) (run : Run) : Prop where
  fits {id : NodeId} {function : AggregateFunction} {inner : NodeId} {scope : Scope}
      {key : AggregateKey} {kind : Kind} {value : Value} :
    builder.nodes[id]? = some (.aggregate function inner scope key kind) →
      run.cache.peek? (.aggregate key) = some value → value.Fits kind

namespace Aggregate

theorem fits_noData (function : AggregateFunction) (kind : Kind) :
    (noData function).Fits (function.resultKind kind) := by
  cases function with
  | max => exact Value.fits_null kind
  | stdevp => exact Value.fits_of_kind? rfl

/-- Whether the greatest value so far, if there is one, fits a kind. -/
def GreatestFits (kind : Kind) (greatest : Option Value) : Prop :=
  ∀ value, greatest = some value → value.Fits kind

theorem greatestFits_greater {kind : Kind} {greatest next : Option Value} {item : Value}
    (fits : GreatestFits kind greatest) (itemFits : item.Fits kind)
    (compared : greater greatest item = .ok next) : GreatestFits kind next := by
  have itemAlone : GreatestFits kind (some item) := by
    intro value equal
    cases equal
    exact itemFits
  unfold greater at compared
  split at compared
  · cases compared
    exact fits
  · split at compared
    · cases compared
      exact itemAlone
    · split at compared
      · cases compared
        exact itemAlone
      · cases compared
        exact fits
      · cases compared

theorem ensures_reduce {invariant : Run → Prop} {inner : RowId → Evaluate Value} {kind : Kind}
    (each : ∀ row, (inner row).Ensures invariant (Evaluate.OfValues (Value.Fits · kind)))
    (function : AggregateFunction) (rows : List RowId) :
    (reduce function inner rows).Ensures invariant
      (Evaluate.OfValues (Value.Fits · (function.resultKind kind))) := by
  cases function with
  | max =>
      refine Evaluate.ensures_reduce_of .max (GreatestFits kind) each ?_ ?_ ?_ rows
      · intro value equal
        cases equal
      · exact fun greatest item next fits itemFits => greatestFits_greater fits itemFits
      · intro greatest fits
        cases greatest with
        | none => exact Value.fits_null kind
        | some value => exact fits value rfl
  | stdevp =>
      exact Evaluate.ensures_reduce_of .stdevp (fun _ => True) each trivial
        (fun _ _ _ _ _ _ => trivial) (fun moments _ => Value.fits_of_kind? rfl) rows

end Aggregate

namespace Expression.Builder.Valid

open Evaluate

variable {builder : Builder}

theorem steady_keepsKinds (builder : Builder) (program : ProgramId) :
    Run.Steady program (Run.KeepsKinds builder) := by
  intro before after alike _ keeps
  constructor
  intro id function inner scope key kind value found held
  rw [alike.peek?_eq] at held
  exact keeps.fits found held

theorem keepsKinds_store (valid : builder.Valid) {id inner : NodeId}
    {function : AggregateFunction} {scope : Scope} {key : AggregateKey} {kind : Kind}
    (found : builder.nodes[id]? = some (.aggregate function inner scope key kind))
    {run : Run} (keeps : run.KeepsKinds builder) {value : Value} (fits : value.Fits kind) :
    Run.KeepsKinds builder { run with cache := run.cache.store (.aggregate key) value } := by
  constructor
  intro otherId otherFunction otherInner otherScope otherKey otherKind other otherFound held
  by_cases same : otherKey = key
  · rw [same] at otherFound held
    rcases valid.agree found otherFound with ⟨_, _, sameKind⟩
    rw [Cache.peek?_store] at held
    cases held
    rw [← sameKind]
    exact fits
  · have different : Slot.aggregate otherKey ≠ .aggregate key :=
      fun equal => same (Slot.aggregate.inj equal)
    rw [Cache.peek?_store_of_ne different] at held
    exact keeps.fits otherFound held

/-- Evaluating a node gives a value that fits its kind, and keeps none but such values. -/
theorem ensures_evaluateTree (valid : builder.Valid) (engine : Engine) (id : NodeId)
    (row? : Option RowId) :
    (engine.evaluateTree (builder.tree id) row?).Ensures (Run.KeepsKinds builder)
      (OfValues (Value.Fits · (builder.kind id))) := by
  induction id using valid.node_induction generalizing row? with
  | unknown id absent =>
      rw [tree_of_absent absent]
      exact ensures_throw ofValues_error
  | literal id value kind found =>
      rw [valid.tree_eq found, kind_of_node found]
      exact ensures_pure (ofValues_ok (valid.node found))
  | field id column kind found =>
      rw [valid.tree_eq found, kind_of_node found]
      cases row? with
      | none => exact ensures_pure (ofValues_ok (Value.fits_null kind))
      | some row =>
          have reads : (read row column).Ensures (Run.KeepsKinds builder)
              (OfValues fun _ => True) :=
            ensures_read (steady_keepsKinds builder engine.program.id) fun _ _ _ _ => trivial
          apply reads.bind_values
          intro value _
          apply ensures_conversion
          intro result equal
          exact Value.fits_of_coerce (Result.mapError_eq_ok equal)
  | unary id operator operand found induction =>
      rw [valid.tree_eq found, kind_of_node found]
      apply (induction row?).bind_values
      intro value _
      apply ensures_operator
      intro result equal
      exact Operator.fits_of_unary (Result.mapError_eq_ok equal)
  | binary id operator left right found leftInduction rightInduction =>
      rw [valid.tree_eq found, kind_of_node found]
      apply (leftInduction row?).bind_values
      intro leftValue _
      apply (rightInduction row?).bind_values
      intro rightValue _
      apply ensures_operator
      intro result equal
      exact Operator.fits_of_binary (Result.mapError_eq_ok equal)
  | aggregate id function inner scope key kind found induction =>
      have kindEqual : kind = function.resultKind (builder.kind inner) := (valid.node found).2.1
      rw [valid.tree_eq found, kind_of_node found, Node.kind]
      apply ensures_aggregate (steady_keepsKinds builder _)
      · intro run error _ _
        exact ofValues_error
      · intro run _ _
        rw [kindEqual]
        exact ofValues_ok (Aggregate.fits_noData function _)
      · intro run extent value _ keeps _ held
        exact ofValues_ok (keeps.fits found held)
      · intro run extent _ _
        rw [kindEqual]
        exact Aggregate.ensures_reduce (fun row => induction (some row)) function extent.rows
      · intro before after extent value _ _ _ _ keeps fits
        exact valid.keepsKinds_store found keeps (fits value rfl)

end Expression.Builder.Valid

theorem Expression.Builder.kind_of_engine {builder : Builder} {number : ProgramId}
    {options : Options} {id : NodeId} {kind : Kind}
    (declared : (builder.engine number options).kind id = .ok kind) :
    builder.kind id = kind := by
  rw [Builder.kind]
  rw [Engine.kind, nodes_engine] at declared
  cases found : builder.nodes[id]? with
  | none =>
      rw [found] at declared
      cases declared
  | some node =>
      rw [found] at declared
      cases declared
      rfl

/-! ## Errors of arithmetic -/

def EvaluationError.IsArithmetic (error : EvaluationError) (operation : Arithmetic)
    (numeric : NumericKind) : Prop :=
  error = .divisionByZero ∧ operation = .divide ∨
    error = .overflow operation ∧ numeric = .decimal

theorem EvaluationError.isArithmetic_ofOperator {operation : Arithmetic} {numeric : NumericKind}
    {error : OperatorError} (arithmetic : Operator.IsArithmeticError operation numeric error) :
    (ofOperator error).IsArithmetic operation numeric := by
  rcases arithmetic with ⟨rfl, divides⟩ | ⟨rfl, isDecimal⟩
  · exact .inl ⟨rfl, divides⟩
  · exact .inr ⟨rfl, isDecimal⟩

namespace Expression.Builder.Valid

variable {builder : Builder} {engine : Engine} {row? : Option RowId} {run between : Run}

theorem isArithmetic_binary (valid : builder.Valid) {id left right : NodeId}
    {operation : Arithmetic} {numeric : NumericKind}
    (found : builder.nodes[id]? = some (.binary (.arithmetic operation numeric) left right))
    (promoted : (builder.kind left).promote? (builder.kind right) = some numeric.kind)
    (keeps : run.KeepsKinds builder) {leftValue rightValue : Value}
    (leftGiven : (engine.evaluateTree (builder.tree left) row?).run run = (.ok leftValue, between))
    (rightGiven : ((engine.evaluateTree (builder.tree right) row?).run between).1 =
      .ok rightValue) {error : EvaluationError}
    (failed : ((engine.evaluateTree (builder.tree id) row?).run run).1 = .error error) :
    error.IsArithmetic operation numeric := by
  rcases valid.ensures_evaluateTree engine left row? run keeps with ⟨leftFits, betweenKeeps⟩
  rw [leftGiven] at leftFits betweenKeeps
  have rightFits := (valid.ensures_evaluateTree engine right row? between betweenKeeps).1
  rw [valid.tree_eq found, Node.treeAt, Engine.result_binary leftGiven rightGiven] at failed
  rcases Result.mapError_eq_error failed with ⟨cause, computed, rfl⟩
  exact EvaluationError.isArithmetic_ofOperator (Operator.isArithmeticError_binary
    (leftFits leftValue rfl) (rightFits rightValue rightGiven) promoted computed)

theorem negation_ok (valid : builder.Valid) {id operand : NodeId} {numeric : NumericKind}
    (found : builder.nodes[id]? = some (.unary (.negate numeric) operand))
    (own : builder.kind operand = numeric.kind) (keeps : run.KeepsKinds builder) {value : Value}
    (given : ((engine.evaluateTree (builder.tree operand) row?).run run).1 = .ok value) :
    ∃ result, ((engine.evaluateTree (builder.tree id) row?).run run).1 = .ok result := by
  rcases valid.ensures_evaluateTree engine operand row? run keeps with ⟨fits, _⟩
  have valueFits := fits value given
  rw [own] at valueFits
  rcases Operator.unary_negate_ok valueFits with ⟨result, computed⟩
  refine ⟨result, ?_⟩
  rw [valid.tree_eq found, Node.treeAt, Engine.run_unary, given]
  dsimp only [Except.bind]
  rw [computed]
  rfl

end Expression.Builder.Valid

/-! ## Reachable runs -/

namespace Run

theorem Step.keepsKinds {builder : Builder} (valid : builder.Valid) {number : ProgramId}
    {before after : Run} (step : before.Step (.ofBuilder number builder) after)
    (keeps : before.KeepsKinds builder) : after.KeepsKinds builder := by
  have fewer {other : Run} (kept : ∀ {key : AggregateKey} {value : Value},
      other.cache.peek? (.aggregate key) = some value →
        before.cache.peek? (.aggregate key) = some value) : other.KeepsKinds builder :=
    ⟨fun found held => keeps.fits found (kept held)⟩
  cases step with
  | evaluate options kind id row? =>
      rw [Engine.run_evaluateAs_snd]
      exact (valid.ensures_evaluateTree _ id row? before keeps).2
  | invalidate key =>
      apply fewer
      intro other value held
      rw [peek?_invalidate] at held
      split at held
      · cases held
      · exact held
  | cross boundary =>
      apply fewer
      intro other value held
      rw [peek?_cross] at held
      split at held
      · cases held
      · exact held
  | reset =>
      apply fewer
      intro other value held
      cases held
  | setWorkState owner name value =>
      apply fewer
      intro other value held
      rw [Run.setWorkState, Cache.peek?_store_of_ne Slot.noConfusion] at held
      exact held

theorem Reached.keepsKinds {builder : Builder} (valid : builder.Valid) {number : ProgramId}
    {data : DataSource} {run : Run} (reached : run.Reached (.ofBuilder number builder) data) :
    run.KeepsKinds builder := by
  induction reached with
  | start =>
      constructor
      intro id function inner scope key kind value found held
      cases held
  | step _ step induction => exact step.keepsKinds valid induction

end Run

/-- In every run that can be reached over the nodes of a builder, a node has values of its kind
alone, and so have the slots of aggregates. A node that was made by arithmetic in a numeric kind
fails by division by zero, or by overflow of decimals, if its operands have values, and a negation
does not fail at all. -/
theorem values_have_declared_kinds {builder : Builder} (built : builder.Built)
    (number : ProgramId) (data : DataSource) {run : Run}
    (reached : run.Reached (.ofBuilder number builder) data) :
    (∀ (options : Options) (id : NodeId) (row? : Option RowId) (kind : Kind) (value : Value),
      (builder.engine number options).kind id = .ok kind → kind ≠ .object →
        (((builder.engine number options).native id row?).run run).1 = .ok value →
          value = .null ∨ value.kind? = some kind) ∧
    (∀ (id inner : NodeId) (function : AggregateFunction) (scope : Scope) (key : AggregateKey)
        (kind : Kind) (value : Value),
      builder.nodes[id]? = some (.aggregate function inner scope key kind) → kind ≠ .object →
        run.cache.peek? (.aggregate key) = some value →
          value = .null ∨ value.kind? = some kind) ∧
    (∀ (start after : Builder) (operation done : Arithmetic) (numeric : NumericKind)
        (left right id : NodeId),
      start.Built → left < start.nodes.size → right < start.nodes.size →
        (Build.arithmetic operation left right).run start = (id, after) →
          after.nodes[id]? = some (.binary (.arithmetic done numeric) left right) →
            after.LeadsTo builder →
      ∀ (options : Options) (row? : Option RowId) (leftValue rightValue : Value) (between : Run)
          (error : EvaluationError),
        ((builder.engine number options).native left row?).run run = (.ok leftValue, between) →
          (((builder.engine number options).native right row?).run between).1 = .ok rightValue →
            (((builder.engine number options).native id row?).run run).1 = .error error →
              error = .divisionByZero ∧ done = .divide ∨
                error = .overflow done ∧ numeric = .decimal) ∧
    (∀ (start after : Builder) (numeric : NumericKind) (operand id : NodeId),
      start.Built → operand < start.nodes.size →
        (Build.negate operand).run start = (id, after) →
          after.nodes[id]? = some (.unary (.negate numeric) operand) → after.LeadsTo builder →
      ∀ (options : Options) (row? : Option RowId) (value : Value),
        (((builder.engine number options).native operand row?).run run).1 = .ok value →
          ∃ result, (((builder.engine number options).native id row?).run run).1 =
            .ok result) := by
  have valid := built.valid
  have keeps := reached.keepsKinds valid
  refine ⟨?_, ?_, ?_, ?_⟩
  · intro options id row? kind value declared transparent given
    have fits := (valid.ensures_evaluateTree _ id row? run keeps).1 value given
    rw [Builder.kind_of_engine declared] at fits
    exact fits.cases transparent
  · intro id inner function scope key kind value found transparent held
    exact (keeps.fits found held).cases transparent
  · intro start after operation done numeric left right id startBuilt leftKnown rightKnown made
      found leads options row? leftValue rightValue between error leftGiven rightGiven failed
    have step := Builder.Step.arithmetic operation left right leftKnown rightKnown
    rw [made] at step
    rcases step.sound startBuilt.valid with ⟨afterValid, within⟩
    have later := (leads.sound afterValid).2
    -- The kinds of the operands are those that they had when the node was made.
    have promoted := Builder.promote?_of_arithmetic startBuilt.valid leftKnown rightKnown made found
    rw [← (within.trans later).kind_eq leftKnown, ← (within.trans later).kind_eq rightKnown]
      at promoted
    exact valid.isArithmetic_binary
      ((later.node id (Builder.lt_of_node found)).trans found) promoted keeps leftGiven rightGiven
      failed
  · intro start after numeric operand id startBuilt known made found leads options row? value given
    have step := Builder.Step.negate operand known
    rw [made] at step
    rcases step.sound startBuilt.valid with ⟨afterValid, within⟩
    have later := (leads.sound afterValid).2
    have own := Builder.kind_of_negate startBuilt.valid known made found
    rw [← (within.trans later).kind_eq known] at own
    exact valid.negation_ok ((later.node id (Builder.lt_of_node found)).trans found) own keeps given

namespace Expression.Builder

def difference : Builder :=
  { nodes := #[.field 0 .int32, .binary (.arithmetic .minus .int32) 0 0] }

def ratio : Builder :=
  { nodes := difference.nodes.push (.binary (.arithmetic .divide .int32) 0 1) }

def opposite : Builder :=
  { nodes := ratio.nodes.push (.unary (.negate .int32) 0) }

theorem built_difference : difference.Built :=
  .step (.step .refl (.field 0 .int32)) (.arithmetic .minus 0 0 (by decide) (by decide))

theorem built_ratio : ratio.Built :=
  .step built_difference (.arithmetic .divide 0 1 (by decide) (by decide))

theorem leadsTo_opposite : ratio.LeadsTo opposite :=
  .step .refl (.negate 0 (by decide))

end Expression.Builder

/-- The greatest number is a number, and so is what is kept of it. A number divided by zero fails by
this division, and its negation has a value. -/
theorem greatest_number_is_number :
    (Builder.greatest.Built ∧ Run.afterSeven.Reached (.ofBuilder 0 .greatest) DataSet.seven.source ∧
      (((Builder.greatest.engine 0 {}).native 1 none).run Run.afterSeven).1 = .ok (.int32 7) ∧
      (Value.int32 7 = .null ∨ (Value.int32 7).kind? = some .int32) ∧
      Run.afterSeven.cache.peek? (.aggregate 0) = some (.int32 7) ∧
      (Value.int32 7 = .null ∨ (Value.int32 7).kind? = some .int32)) ∧
    Builder.opposite.Built ∧
      (((Builder.opposite.engine 0 {}).native 2 (some 0)).run (.start DataSet.seven.source)).1 =
        .error .divisionByZero ∧
      (EvaluationError.divisionByZero = .divisionByZero ∧ Arithmetic.divide = .divide ∨
        EvaluationError.divisionByZero = .overflow .divide ∧ NumericKind.int32 = .decimal) ∧
      ∃ result, (((Builder.opposite.engine 0 {}).native 3 (some 0)).run
        (.start DataSet.seven.source)).1 = .ok result := by
  have given : (((Builder.greatest.engine 0 {}).native 1 none).run Run.afterSeven).1 =
      .ok (.int32 7) := by cbv
  have kept : Run.afterSeven.cache.peek? (.aggregate 0) = some (.int32 7) := by cbv
  have failed : (((Builder.opposite.engine 0 {}).native 2 (some 0)).run
      (.start DataSet.seven.source)).1 = .error .divisionByZero := by cbv
  have opposite : Builder.opposite.Built :=
    .step Builder.built_ratio (.negate 0 (by decide))
  rcases values_have_declared_kinds Builder.built_greatest 0 DataSet.seven.source
    Run.reached_afterSeven with ⟨values, slots, _⟩
  rcases values_have_declared_kinds opposite 0 DataSet.seven.source .start with
    ⟨_, _, divides, negates⟩
  refine ⟨⟨Builder.built_greatest, Run.reached_afterSeven, given,
    values {} 1 none .int32 (.int32 7) rfl (by decide) given, kept,
    slots 1 0 .max .default 0 .int32 (.int32 7) rfl (by decide) kept⟩, opposite, failed, ?_, ?_⟩
  · exact divides .difference .ratio .divide .divide .int32 0 1 2 Builder.built_difference
      (by decide) (by decide) rfl rfl Builder.leadsTo_opposite {} (some 0) (.int32 7) (.int32 0)
      _ _ (by cbv) (by cbv) failed
  · exact negates .ratio .opposite .int32 0 3 Builder.built_ratio (by decide) rfl rfl .refl {}
      (some 0) (.int32 7) (by cbv)

end GroupedReport
