import GroupedReport.Proofs.Expression.Folding

/-!
# Builders

A builder is made by the operations of building alone, and these get no other positions than those
of its own nodes. Every operation keeps all nodes and leaves a valid builder.
-/

namespace GroupedReport.Expression

namespace Builder

/-- An operation of building on nodes that a builder has, with the builder it leaves. -/
inductive Step (builder : Builder) : Builder → Prop
  | literal (value : Value) : Step builder ((Build.literal value).run builder).2
  | null (kind : Kind) : Step builder ((Build.null kind).run builder).2
  | field (column : Nat) (kind : Kind) : Step builder ((Build.field column kind).run builder).2
  | require (child : Option NodeId) (owner element : String) (kind : Kind)
      (known : ∀ id ∈ child, id < builder.nodes.size) :
      Step builder ((Build.require child owner element kind).run builder).2
  | unary (operator : UnaryOperator) (operand : NodeId) (known : operand < builder.nodes.size) :
      Step builder ((Build.unary operator operand).run builder).2
  | binary (operator : BinaryOperator) (left right : NodeId)
      (leftKnown : left < builder.nodes.size) (rightKnown : right < builder.nodes.size) :
      Step builder ((Build.binary operator left right).run builder).2
  | arithmetic (operation : Arithmetic) (left right : NodeId)
      (leftKnown : left < builder.nodes.size) (rightKnown : right < builder.nodes.size) :
      Step builder ((Build.arithmetic operation left right).run builder).2
  | negate (operand : NodeId) (known : operand < builder.nodes.size) :
      Step builder ((Build.negate operand).run builder).2
  | aggregate (function : AggregateFunction) (inner : NodeId) (scope : Scope)
      (known : inner < builder.nodes.size) :
      Step builder ((Build.aggregate function inner scope).run builder).2
  | fold (id : NodeId) (known : id < builder.nodes.size) :
      Step builder ((Build.fold id).run builder).2
  | log (log : Diagnostic.Log) : Step builder { builder with log }

inductive LeadsTo (first : Builder) : Builder → Prop
  | refl : LeadsTo first first
  | step {builder last : Builder} : LeadsTo first builder → builder.Step last → LeadsTo first last

def Built (builder : Builder) : Prop :=
  LeadsTo {} builder

/-! ## One operation -/

theorem Valid.key_lt {builder : Builder} (valid : builder.Valid) (id : NodeId) :
    ∀ key ∈ (builder.tree id).keys, key < builder.nextKey := by
  induction id using valid.node_induction with
  | unknown id absent =>
      rw [tree_of_absent absent]
      intro key member
      cases member
  | literal id value kind found =>
      rw [valid.tree_eq found]
      intro key member
      cases member
  | field id column kind found =>
      rw [valid.tree_eq found]
      intro key member
      cases member
  | unary id operator operand found induction =>
      rw [valid.tree_eq found]
      exact induction
  | binary id operator left right found leftInduction rightInduction =>
      rw [valid.tree_eq found]
      intro key member
      rcases List.mem_append.mp member with inLeft | inRight
      · exact leftInduction key inLeft
      · exact rightInduction key inRight
  | aggregate id function inner scope own kind found induction =>
      rcases valid.node found with ⟨_, _, fresh, _⟩
      rw [valid.tree_eq found]
      intro key member
      rcases List.mem_cons.mp member with rfl | inside
      · exact fresh
      · exact induction key inside

section

variable {builder : Builder} (valid : builder.Valid)
include valid

theorem puts_null (kind : Kind) :
    builder.Puts (.literal 0 .null kind) ((Build.null kind).run builder) :=
  puts_literal valid (Value.fits_null kind)

theorem puts_field (column : Nat) (kind : Kind) :
    builder.Puts (.field 0 column kind) ((Build.field column kind).run builder) := by
  have nodeValid : (Node.field column kind).ValidIn builder builder.nodes.size := trivial
  exact puts_add valid nodeValid trivial

theorem puts_unary (operator : UnaryOperator) {operand : NodeId}
    (known : operand < builder.nodes.size) :
    builder.Puts (.unary 0 operator (builder.tree operand).bare)
      ((Build.unary operator operand).run builder) := by
  have nodeValid : (Node.unary operator operand).ValidIn builder builder.nodes.size := known
  exact puts_add valid nodeValid trivial

theorem puts_binary (operator : BinaryOperator) {left right : NodeId}
    (leftKnown : left < builder.nodes.size) (rightKnown : right < builder.nodes.size) :
    builder.Puts (.binary 0 operator (builder.tree left).bare (builder.tree right).bare)
      ((Build.binary operator left right).run builder) := by
  have nodeValid : (Node.binary operator left right).ValidIn builder builder.nodes.size :=
    ⟨leftKnown, rightKnown⟩
  exact puts_add valid nodeValid trivial

omit valid in
theorem run_kind_bind (id : NodeId) (next : Kind → Build α) (builder : Builder) :
    (Build.kind id >>= next).run builder = (next (builder.kind id)).run builder := rfl

theorem puts_report_null (diagnostic : Diagnostic) (kind : Kind) :
    builder.Puts (.literal 0 .null kind)
      ((do Build.report diagnostic; Build.null kind : Build NodeId).run builder) := by
  rw [Build.run_bind]
  have within : builder.Within ((Build.report diagnostic).run builder).2 :=
    .of_nodes rfl (Nat.le_refl _)
  have reported : ((Build.report diagnostic).run builder).2.Valid :=
    valid.of_nodes rfl (Nat.le_refl _)
  exact Puts.trans within (puts_null reported kind)

theorem puts_arithmetic (operation : Arithmetic) {left right : NodeId}
    (leftKnown : left < builder.nodes.size) (rightKnown : right < builder.nodes.size) :
    builder.Puts
      (match Build.arithmeticOperator? operation (builder.kind left) (builder.kind right) with
        | some operator =>
            .binary 0 operator (builder.tree left).bare (builder.tree right).bare
        | none => .literal 0 .null .object)
      ((Build.arithmetic operation left right).run builder) := by
  rw [Build.arithmetic, run_kind_bind, run_kind_bind]
  cases Build.arithmeticOperator? operation (builder.kind left) (builder.kind right) with
  | some operator => exact puts_binary valid operator leftKnown rightKnown
  | none => exact puts_report_null valid _ .object

theorem puts_negate {operand : NodeId} (known : operand < builder.nodes.size) :
    builder.Puts
      (match UnaryOperator.negate? (builder.kind operand) with
        | some operator => .unary 0 operator (builder.tree operand).bare
        | none => .literal 0 .null .object)
      ((Build.negate operand).run builder) := by
  rw [Build.negate, run_kind_bind]
  cases UnaryOperator.negate? (builder.kind operand) with
  | some operator => exact puts_unary valid operator known
  | none => exact puts_report_null valid _ .object

omit valid in
theorem promote?_of_arithmeticOperator? {operation done : Arithmetic} {numeric : NumericKind}
    {left right : Kind}
    (chosen : Build.arithmeticOperator? operation left right = some (.arithmetic done numeric)) :
    left.promote? right = some numeric.kind := by
  rw [Build.arithmeticOperator?] at chosen
  split at chosen
  · cases chosen
  · rcases Option.bind_eq_some_iff.mp chosen with ⟨kind, promoted, computes⟩
    rcases Option.map_eq_some_iff.mp computes with ⟨own, ofKind, equal⟩
    cases equal
    rw [promoted, NumericKind.kind_of_ofKind? ofKind]

theorem promote?_of_arithmetic {operation done : Arithmetic} {numeric : NumericKind}
    {left right : NodeId} (leftKnown : left < builder.nodes.size)
    (rightKnown : right < builder.nodes.size) {result : NodeId × Builder}
    (made : (Build.arithmetic operation left right).run builder = result)
    (found : result.2.nodes[result.1]? = some (.binary (.arithmetic done numeric) left right)) :
    (builder.kind left).promote? (builder.kind right) = some numeric.kind := by
  have puts := puts_arithmetic valid operation leftKnown rightKnown
  rw [made] at puts
  have bare := puts.bare
  rw [puts.valid.tree_eq found] at bare
  split at bare
  · rename_i operator chosen
    have same : .arithmetic done numeric = operator := (Tree.binary.inj bare).2.1
    rw [← same] at chosen
    exact promote?_of_arithmeticOperator? chosen
  · cases bare

theorem kind_of_negate {numeric : NumericKind} {operand : NodeId}
    (known : operand < builder.nodes.size) {result : NodeId × Builder}
    (made : (Build.negate operand).run builder = result)
    (found : result.2.nodes[result.1]? = some (.unary (.negate numeric) operand)) :
    builder.kind operand = numeric.kind := by
  have puts := puts_negate valid known
  rw [made] at puts
  have bare := puts.bare
  rw [puts.valid.tree_eq found] at bare
  split at bare
  · rename_i operator chosen
    have same : .negate numeric = operator := (Tree.unary.inj bare).2.1
    rw [← same] at chosen
    rcases Option.map_eq_some_iff.mp chosen with ⟨own, ofKind, equal⟩
    cases equal
    exact NumericKind.kind_of_ofKind? ofKind
  · cases bare

theorem puts_aggregate (function : AggregateFunction) {inner : NodeId} (scope : Scope)
    (known : inner < builder.nodes.size) :
    builder.Puts
      (.aggregate 0 function (builder.tree inner).bare scope builder.nextKey
        (function.resultKind (builder.kind inner)))
      ((Build.aggregate function inner scope).run builder) := by
  let counted : Builder := { builder with nextKey := builder.nextKey + 1 }
  have within : builder.Within counted := .of_nodes rfl (Nat.le_succ _)
  have countedValid : counted.Valid := valid.of_nodes rfl (Nat.le_succ _)
  let node : Node := .aggregate function inner scope builder.nextKey
    (function.resultKind (builder.kind inner))
  have nodeValid : node.ValidIn counted counted.nodes.size :=
    ⟨known, rfl, Nat.lt_succ_self _, valid.key_lt inner⟩
  have admitted : counted.Admits node := by
    intro id other otherInner otherScope otherKind found
    rcases valid.node found with ⟨_, _, fresh, _⟩
    exact absurd fresh (Nat.lt_irrefl _)
  exact Puts.trans within (puts_add countedValid nodeValid admitted)

theorem puts_require {child : Option NodeId} (owner element : String) (kind : Kind)
    (known : ∀ id ∈ child, id < builder.nodes.size) :
    builder.Puts
      (match child with
        | some id => (builder.tree id).bare
        | none => .literal 0 .null kind)
      ((Build.require child owner element kind).run builder) := by
  cases child with
  | none => exact puts_report_null valid _ kind
  | some id => exact puts_pure valid (known id rfl) rfl

end

theorem Step.sound {before after : Builder} (step : before.Step after) (valid : before.Valid) :
    after.Valid ∧ before.Within after := by
  have puts {tree : Tree} {result : NodeId × Builder} (puts : before.Puts tree result) :
      result.2.Valid ∧ before.Within result.2 :=
    ⟨puts.valid, puts.within⟩
  cases step with
  | literal value => exact puts (puts_literal valid (Value.fits_own value))
  | null kind => exact puts (puts_null valid kind)
  | field column kind => exact puts (puts_field valid column kind)
  | require child owner element kind known =>
      exact puts (puts_require valid owner element kind known)
  | unary operator operand known => exact puts (puts_unary valid operator known)
  | binary operator left right leftKnown rightKnown =>
      exact puts (puts_binary valid operator leftKnown rightKnown)
  | arithmetic operation left right leftKnown rightKnown =>
      exact puts (puts_arithmetic valid operation leftKnown rightKnown)
  | negate operand known => exact puts (puts_negate valid known)
  | aggregate function inner scope known => exact puts (puts_aggregate valid function scope known)
  | fold id known => exact puts (valid.puts_fold known)
  | log log => exact ⟨valid.of_nodes rfl (Nat.le_refl _), .of_nodes rfl (Nat.le_refl _)⟩

/-! ## Any number of operations -/

theorem LeadsTo.sound {first last : Builder} (leads : first.LeadsTo last) (valid : first.Valid) :
    last.Valid ∧ first.Within last := by
  induction leads with
  | refl => exact ⟨valid, .refl first⟩
  | step _ step induction =>
      rcases induction with ⟨middleValid, within⟩
      rcases step.sound middleValid with ⟨lastValid, further⟩
      exact ⟨lastValid, within.trans further⟩

theorem Built.valid {builder : Builder} (built : builder.Built) : builder.Valid :=
  (LeadsTo.sound built valid_empty).1

end Builder

end GroupedReport.Expression
