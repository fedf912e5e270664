import GroupedReport.Proofs.Data.Declarations
import GroupedReport.Proofs.Expression.Folding
import GroupedReport.Report.Basic

/-!
# Resolved names

A name of a field becomes a column that every row has. What is reported on the way never says that
a grouping is unknown; that is only said of the grouping that a report is run by.
-/

namespace GroupedReport

open Expression

def Diagnostic.Log.FreeOf (code : Code) (log : Log) : Prop :=
  ∀ diagnostic ∈ log, diagnostic.code ≠ code

namespace Diagnostic.Log

variable {code : Code}

theorem freeOf_nil : FreeOf code [] := by
  intro diagnostic member
  cases member

theorem freeOf_singleton {diagnostic : Diagnostic} (other : diagnostic.code ≠ code) :
    FreeOf code [diagnostic] := by
  intro found member
  cases List.mem_singleton.mp member
  exact other

theorem freeOf_warning {other : Code} (different : other ≠ code) (message : String) :
    FreeOf code [.warning other message] :=
  freeOf_singleton different

theorem freeOf_error {other : Code} (different : other ≠ code) (message : String) :
    FreeOf code [.error other message] :=
  freeOf_singleton different

theorem FreeOf.append {first second : Log} (left : first.FreeOf code) (right : second.FreeOf code) :
    FreeOf code (first ++ second) := by
  intro diagnostic member
  exact (List.mem_append.mp member).elim (left diagnostic) (right diagnostic)

end Diagnostic.Log

/-! ## Fields -/

namespace Fields

/-- Whether every field that can be found by name has a column. -/
def Bounded (fields : Fields) : Prop :=
  ∀ field ∈ fields.reachable, field.column < fields.columns.length

theorem Bounded.get? {fields : Fields} (bounded : fields.Bounded) {name : String} {field : Field}
    (found : fields.get? name = some field) : field.column < fields.columns.length :=
  bounded field (List.mem_of_find?_eq_some found)

theorem bounded_load (entries : List Json) : (load entries).1.Bounded :=
  fun _ => (declared_load entries).laid.column_lt

theorem freeOf_load (entries : List Json) : (load entries).2.FreeOf .unknownScope := by
  have others : ∀ code ∈ [Diagnostic.Code.unknownElement, .duplicateName],
      code ≠ .unknownScope := by decide
  intro diagnostic member
  rcases eq_warning_of_mem_load member with ⟨code, possible, _, rfl⟩
  exact others code possible

end Fields

/-! ## Building -/

/-- Whether a builder reads columns that there are, and has reported no unknown grouping. -/
structure Expression.Builder.Resolved (fields : Fields) (builder : Builder) : Prop where
  column {column : Nat} {kind : Kind} :
    .field column kind ∈ builder.nodes → column < fields.columns.length
  log : builder.log.FreeOf .unknownScope

namespace Expression

namespace Build

def Keeps (invariant : Builder → Prop) (action : Build α) : Prop :=
  ∀ builder, invariant builder → invariant (action.run builder).2

section

variable {invariant : Builder → Prop}

theorem keeps_pure (value : α) : Keeps invariant (pure value) :=
  fun _ holds => holds

theorem Keeps.bind {action : Build α} {next : α → Build β} (first : Keeps invariant action)
    (second : ∀ value, Keeps invariant (next value)) : Keeps invariant (action >>= next) :=
  fun builder holds => second _ _ (first builder holds)

theorem Keeps.map {action : Build α} (keeps : Keeps invariant action) (transform : α → β) :
    Keeps invariant (transform <$> action) :=
  keeps

theorem keeps_kind (id : NodeId) : Keeps invariant (kind id) :=
  fun _ holds => holds

theorem keeps_get : Keeps invariant (get : Build Builder) :=
  fun _ holds => holds

theorem keeps_mapM {action : α → Build β} (each : ∀ item, Keeps invariant (action item))
    (items : List α) : Keeps invariant (items.mapM action) := by
  induction items with
  | nil => exact keeps_pure []
  | cons item rest induction =>
      rw [List.mapM_cons]
      exact (each item).bind fun _ => induction.bind fun _ => keeps_pure _

theorem keeps_forM {action : α → Build PUnit} {items : List α}
    (each : ∀ item ∈ items, Keeps invariant (action item)) :
    Keeps invariant (items.forM action) := by
  induction items with
  | nil => exact keeps_pure _
  | cons item rest induction =>
      rw [List.forall_mem_cons] at each
      exact each.1.bind fun _ => induction each.2

end

variable {fields : Fields}

theorem keeps_add {node : Node} (other : ∀ column kind, node ≠ .field column kind) :
    Keeps (Builder.Resolved fields) (add node) := by
  intro builder resolved
  refine ⟨?_, resolved.log⟩
  intro column kind member
  rcases Array.mem_push.mp member with old | new
  · exact resolved.column old
  · exact absurd new.symm (other column kind)

theorem keeps_report {diagnostic : Diagnostic} (other : diagnostic.code ≠ .unknownScope) :
    Keeps (Builder.Resolved fields) (report diagnostic) :=
  fun _ resolved => ⟨resolved.column, resolved.log.append (Diagnostic.Log.freeOf_singleton other)⟩

theorem keeps_error {code : Diagnostic.Code} (other : code ≠ .unknownScope) (message : String) :
    Keeps (Builder.Resolved fields) (report (.error code message)) :=
  keeps_report other

theorem keeps_literal (value : Value) : Keeps (Builder.Resolved fields) (literal value) :=
  keeps_add (by rintro column kind ⟨⟩)

theorem keeps_null (kind : Kind) : Keeps (Builder.Resolved fields) (null kind) :=
  keeps_add (by rintro column kind ⟨⟩)

theorem keeps_unary (operator : UnaryOperator) (operand : NodeId) :
    Keeps (Builder.Resolved fields) (unary operator operand) :=
  keeps_add (by rintro column kind ⟨⟩)

theorem keeps_binary (operator : BinaryOperator) (left right : NodeId) :
    Keeps (Builder.Resolved fields) (binary operator left right) :=
  keeps_add (by rintro column kind ⟨⟩)

theorem keeps_field (bounded : fields.Bounded) {name : String} {found : Field}
    (isFound : fields.get? name = some found) :
    Keeps (Builder.Resolved fields) (field found.column found.kind) := by
  intro builder resolved
  refine ⟨?_, resolved.log⟩
  intro column kind member
  rcases Array.mem_push.mp member with old | new
  · exact resolved.column old
  · cases new
    exact bounded.get? isFound

theorem keeps_require (child : Option NodeId) (owner element : String) (kind : Kind) :
    Keeps (Builder.Resolved fields) (require child owner element kind) := by
  cases child with
  | some id => exact keeps_pure id
  | none => exact (keeps_error (by decide) _).bind fun _ => keeps_null kind

theorem keeps_arithmetic (operation : Arithmetic) (left right : NodeId) :
    Keeps (Builder.Resolved fields) (arithmetic operation left right) := by
  refine (keeps_kind left).bind fun leftKind => (keeps_kind right).bind fun rightKind => ?_
  split
  · exact keeps_binary _ left right
  · exact (keeps_error (by decide) _).bind fun _ => keeps_null .object

theorem keeps_negate (operand : NodeId) : Keeps (Builder.Resolved fields) (negate operand) := by
  refine (keeps_kind operand).bind fun kind => ?_
  split
  · exact keeps_unary _ operand
  · exact (keeps_error (by decide) _).bind fun _ => keeps_null .object

theorem keeps_aggregate (function : AggregateFunction) (inner : NodeId) (scope : Scope) :
    Keeps (Builder.Resolved fields) (aggregate function inner scope) := by
  have counts : Keeps (Builder.Resolved fields) nextKey :=
    fun _ resolved => ⟨resolved.column, resolved.log⟩
  exact counts.bind fun key => (keeps_kind inner).bind fun kind =>
    keeps_add (by rintro column other ⟨⟩)

/-! ## Folding -/

theorem keeps_reportUnfoldable (id : NodeId) (operator : String) (error : OperatorError) :
    Keeps (Builder.Resolved fields) (reportUnfoldable id operator error) := by
  intro builder resolved
  unfold reportUnfoldable StateT.run
  dsimp only
  split
  · exact resolved
  · exact ⟨resolved.column, resolved.log.append (Diagnostic.Log.freeOf_warning (by decide) _)⟩

theorem keeps_rebuild (id : NodeId) (unchanged : Bool) {node : Node}
    (other : ∀ column kind, node ≠ .field column kind) :
    Keeps (Builder.Resolved fields) (rebuild id unchanged node) := by
  rw [rebuild]
  split
  · exact keeps_pure id
  · exact keeps_add other

theorem keeps_foldUnary (id : NodeId) (operator : UnaryOperator) (operand folded : NodeId) :
    Keeps (Builder.Resolved fields) (foldUnary id operator operand folded) := by
  have rebuilds : Keeps (Builder.Resolved fields)
      (rebuild id (folded == operand) (.unary operator folded)) :=
    keeps_rebuild id _ (by rintro column kind ⟨⟩)
  refine keeps_get.bind fun builder => ?_
  split
  · split
    · exact keeps_add (by rintro column kind ⟨⟩)
    · exact (keeps_reportUnfoldable id _ _).bind fun _ => rebuilds
  · exact rebuilds

theorem keeps_foldBinary (id : NodeId) (operator : BinaryOperator)
    (left right foldedLeft foldedRight : NodeId) :
    Keeps (Builder.Resolved fields)
      (foldBinary id operator left right foldedLeft foldedRight) := by
  have rebuilds (unchanged : Bool) : Keeps (Builder.Resolved fields)
      (rebuild id unchanged (.binary operator foldedLeft foldedRight)) :=
    keeps_rebuild id _ (by rintro column kind ⟨⟩)
  refine keeps_get.bind fun builder => ?_
  dsimp only
  split
  · split
    · exact keeps_add (by rintro column kind ⟨⟩)
    · exact (keeps_reportUnfoldable id _ _).bind fun _ => rebuilds _
  · split
    · exact keeps_pure _
    · exact rebuilds _
  · split
    · exact keeps_pure _
    · exact rebuilds _
  · exact rebuilds _

theorem keeps_foldTree (tree : Tree) : Keeps (Builder.Resolved fields) (foldTree tree) := by
  induction tree with
  | unknown id => exact keeps_pure id
  | literal id value kind => exact keeps_pure id
  | field id column kind => exact keeps_pure id
  | unary id operator operand induction =>
      exact induction.bind fun folded => keeps_foldUnary id operator operand.id folded
  | binary id operator left right leftInduction rightInduction =>
      exact leftInduction.bind fun foldedLeft => rightInduction.bind fun foldedRight =>
        keeps_foldBinary id operator left.id right.id foldedLeft foldedRight
  | aggregate id function inner scope key kind induction =>
      exact induction.bind fun folded => keeps_rebuild id _ (by rintro column other ⟨⟩)

theorem keeps_fold (id : NodeId) : Keeps (Builder.Resolved fields) (fold id) :=
  keeps_get.bind fun builder => keeps_foldTree (builder.tree id)

end Build

end Expression

/-! ## Formulas -/

namespace Formula

open Build

variable {fields : Fields}

theorem keeps_degrade {code : Diagnostic.Code} (other : code ≠ .unknownScope) (message : String) :
    Keeps (Builder.Resolved fields) (degrade code message) :=
  (keeps_error other message).bind fun _ => keeps_null .object

theorem keeps_buildTyped (kind : Kind) (json : Json) :
    Keeps (Builder.Resolved fields) (buildTyped kind json) := by
  rw [buildTyped]
  split
  · split
    · exact keeps_null kind
    · exact keeps_literal _
  · exact (keeps_error (by decide) _).bind fun _ => keeps_null kind

theorem keeps_buildField (bounded : fields.Bounded) (name : String) :
    Keeps (Builder.Resolved fields) (buildField fields name) := by
  rw [buildField]
  split
  · exact keeps_field bounded ‹_›
  · exact keeps_degrade (by decide) _

theorem keeps_buildUnary (spelling : String) (operand : Option NodeId) :
    Keeps (Builder.Resolved fields) (buildUnary spelling operand) := by
  rw [buildUnary]
  split
  · exact (keeps_require operand _ _ _).bind keeps_negate
  · exact (keeps_require operand _ _ _).bind (keeps_unary .not)
  · exact keeps_degrade (by decide) _

theorem keeps_operation (operation : Operation) (left right : NodeId) :
    Keeps (Builder.Resolved fields) (operation.build left right) := by
  cases operation with
  | arithmetic operation => exact keeps_arithmetic operation left right
  | compare comparison => exact keeps_binary _ left right
  | and => exact keeps_binary _ left right
  | or => exact keeps_binary _ left right

theorem keeps_buildBinary (spelling : String) (left right : Option NodeId) :
    Keeps (Builder.Resolved fields) (buildBinary spelling left right) := by
  rw [buildBinary]
  split
  · exact keeps_degrade (by decide) _
  · rename_i operation _
    have operands (kind : Kind) : Keeps (Builder.Resolved fields) (do
        let left ← require left ("Operator '" ++ spelling ++ "'") "Left" kind
        let right ← require right ("Operator '" ++ spelling ++ "'") "Right" kind
        operation.build left right) :=
      (keeps_require left _ _ _).bind fun left =>
        (keeps_require right _ _ _).bind fun right => keeps_operation operation left right
    cases left <|> right with
    | some present => exact (keeps_kind present).bind operands
    | none => exact (keeps_pure operation.fallbackKind).bind operands

theorem keeps_buildAggregate (spelling : String) (inner : Option NodeId) (scope : Scope) :
    Keeps (Builder.Resolved fields) (buildAggregate spelling inner scope) := by
  rw [buildAggregate]
  split
  · exact keeps_degrade (by decide) _
  · exact (keeps_require inner _ _ _).bind fun inner => keeps_aggregate _ inner scope

mutual

theorem keeps_build (bounded : fields.Bounded) (formula : Formula) :
    Keeps (Builder.Resolved fields) (build fields formula) := by
  cases formula with
  | literal value => exact keeps_literal _
  | typed value typeName =>
      rw [build]
      split
      · exact keeps_buildTyped _ value.val
      · exact keeps_degrade (by decide) _
  | field name => exact keeps_buildField bounded name
  | unary operator operand =>
      rw [build]
      exact (keeps_buildOperand bounded operand).bind (keeps_buildUnary operator)
  | binary operator left right =>
      rw [build]
      exact (keeps_buildOperand bounded left).bind fun left =>
        (keeps_buildOperand bounded right).bind fun right => keeps_buildBinary operator left right
  | aggregate function inner scope =>
      rw [build]
      exact (keeps_buildOperand bounded inner).bind fun inner =>
        keeps_buildAggregate function inner scope

theorem keeps_buildOperand (bounded : fields.Bounded) (operand : Option Formula) :
    Keeps (Builder.Resolved fields) (buildOperand fields operand) := by
  cases operand with
  | none => exact keeps_pure none
  | some formula =>
      rw [buildOperand]
      exact (keeps_build bounded formula).bind fun id => keeps_pure (some id)

end

end Formula

/-! ## Columns -/

theorem Flag.freeOf_resolve (flag : Flag) : flag.resolve.2.FreeOf .unknownScope := by
  unfold resolve
  split
  · exact Diagnostic.Log.freeOf_nil
  · split
    · exact Diagnostic.Log.freeOf_nil
    · exact Diagnostic.Log.freeOf_warning (by decide) _

namespace Column

open Build

variable {fields : Fields}

theorem keeps_buildWidth (width : Option Float) :
    Keeps (Builder.Resolved fields) (buildWidth width) := by
  cases width with
  | some width => exact keeps_pure width
  | none => exact (keeps_error (by decide) _).bind fun _ => keeps_pure _

theorem keeps_buildFlag (flag : Option Flag) :
    Keeps (Builder.Resolved fields) (buildFlag flag) := by
  cases flag with
  | none => exact keeps_pure false
  | some flag =>
      refine (keeps_forM fun diagnostic member => ?_).bind fun _ => keeps_pure flag.resolve.1
      exact keeps_report (Flag.freeOf_resolve flag diagnostic member)

theorem keeps_build (bounded : fields.Bounded) (index : Nat) (definition : Definition.Column) :
    Keeps (Builder.Resolved fields) (build fields index definition) :=
  (keeps_buildWidth definition.width).bind fun _ =>
    (Formula.keeps_buildOperand bounded definition.value).bind fun value =>
      (keeps_require value _ _ _).bind fun _ =>
        (Formula.keeps_buildOperand bounded definition.footer).bind fun _ =>
          (Formula.keeps_buildOperand bounded definition.hidden).bind fun _ =>
            (keeps_buildFlag definition.fixedHeader).bind fun _ => keeps_pure _

theorem keeps_buildFrom (bounded : fields.Bounded) (index : Nat)
    (definitions : List Definition.Column) :
    Keeps (Builder.Resolved fields) (buildFrom fields index definitions) := by
  induction definitions generalizing index with
  | nil => exact keeps_pure []
  | cons definition rest induction =>
      exact (keeps_build bounded index definition).bind fun _ =>
        (induction (index + 1)).bind fun _ => keeps_pure _

theorem keeps_foldOptional (child : Option NodeId) :
    Keeps (Builder.Resolved fields) (foldOptional child) := by
  cases child with
  | none => exact keeps_pure none
  | some id => exact (keeps_fold id).map some

theorem keeps_fold (column : Column) : Keeps (Builder.Resolved fields) (fold column) :=
  (Build.keeps_fold column.value).bind fun _ =>
    (keeps_foldOptional column.footer).bind fun _ =>
      (keeps_foldOptional column.hidden).bind fun _ => keeps_pure _

end Column

theorem Report.resolved_buildColumns {fields : Fields} (bounded : fields.Bounded)
    (foldConstants : Bool) (definitions : List Definition.Column) :
    ((buildColumns fields foldConstants definitions).run {}).2.Resolved fields := by
  have start : Builder.Resolved fields {} := by
    refine ⟨?_, Diagnostic.Log.freeOf_nil⟩
    intro column kind member
    exact absurd member (Array.not_mem_empty _)
  have keeps : Build.Keeps (Builder.Resolved fields)
      (buildColumns fields foldConstants definitions) := by
    refine (Column.keeps_buildFrom bounded 0 definitions).bind fun columns => ?_
    split
    · exact Build.keeps_mapM Column.keeps_fold columns
    · exact Build.keeps_pure columns
  exact keeps {} start

theorem Report.freeOf_resolveGroupings (fields : Fields) (groupings : List Definition.Grouping) :
    (resolveGroupings fields groupings).2.FreeOf .unknownScope := by
  have columns (grouping : String) (names : List String) :
      (groupingColumns fields grouping names).2.FreeOf .unknownScope := by
    induction names with
    | nil => exact Diagnostic.Log.freeOf_nil
    | cons name rest induction =>
        rw [groupingColumns]
        dsimp only
        split
        · exact induction
        · exact (Diagnostic.Log.freeOf_error (by decide) _).append induction
  induction groupings with
  | nil => exact Diagnostic.Log.freeOf_nil
  | cons grouping rest induction => exact (columns grouping.name grouping.fields).append induction

end GroupedReport
