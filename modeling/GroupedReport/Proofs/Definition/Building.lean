import GroupedReport.Definition.Build
import GroupedReport.Proofs.Expression.Roots

/-!
# Building formulas

A formula that is built becomes one root. No more aggregates lie inside of each other in its tree
than in the formula.
-/

namespace GroupedReport

open Expression

namespace Formula

mutual

def nesting : Formula → Nat
  | .literal _ | .typed _ _ | .field _ => 0
  | .unary _ operand => operandNesting operand
  | .binary _ left right => max (operandNesting left) (operandNesting right)
  | .aggregate _ inner _ => operandNesting inner + 1

def operandNesting : Option Formula → Nat
  | none => 0
  | some formula => nesting formula

end

end Formula

namespace Expression.Builder

section

variable {before between : Builder} {depth : Nat} {front middle back : List NodeId} {tree : Tree}
  {result : NodeId × Builder}

theorem Gains.replace_leaf (gains : before.Gains depth (front ++ middle ++ back) between)
    (puts : between.Puts tree result) (keys : tree.keys = []) (nesting : tree.nesting = 0) :
    before.Gains depth (front ++ result.1 :: back) result.2 := by
  apply gains.replace puts
  · intro key member
    rw [keys] at member
    cases member
  · rw [keys]
    exact List.nodup_nil
  · rw [nesting]
    exact Nat.zero_le depth

theorem Gains.replace_same (gains : before.Gains depth (front ++ middle ++ back) between)
    (puts : between.Puts tree result) (keys : tree.keys = between.keysOf middle)
    (nesting : tree.nesting ≤ depth) :
    before.Gains depth (front ++ result.1 :: back) result.2 := by
  have distinct := gains.distinct
  rw [keysOf_append, keysOf_append] at distinct
  apply gains.replace puts
  · intro key member
    rw [keys] at member
    exact .inl member
  · rw [keys]
    exact (List.nodup_append.mp (List.nodup_append.mp distinct).1).2.1
  · exact nesting

theorem Gains.require {child : Option NodeId}
    (gains : before.Gains depth (front ++ child.toList ++ back) between) (owner element : String)
    (kind : Kind) (made : (Build.require child owner element kind).run between = result) :
    before.Gains depth (front ++ result.1 :: back) result.2 := by
  have known : ∀ id ∈ child, id < between.nodes.size := by
    intro id member
    apply gains.known
    simp [Option.mem_toList.mpr member]
  have puts := puts_require gains.valid owner element kind known
  rw [made] at puts
  cases child with
  | none => exact gains.replace_leaf puts rfl rfl
  | some id =>
      apply gains.replace_same puts
      · rw [Tree.keys_bare]
        exact (List.append_nil _).symm
      · rw [Tree.nesting_bare]
        apply gains.nesting
        simp

theorem Gains.require_only {child : Option NodeId} (gains : before.Gains depth child.toList between)
    (owner element : String) (kind : Kind)
    (made : (Build.require child owner element kind).run between = result) :
    before.Gains depth [result.1] result.2 := by
  have whole : before.Gains depth ([] ++ child.toList ++ []) between := by
    rw [List.append_nil]
    exact gains
  exact whole.require owner element kind made

end

section

variable {before between : Builder} {depth : Nat} {operand left right : NodeId}

theorem Gains.unary (gains : before.Gains depth [operand] between) {operator : UnaryOperator}
    {result : NodeId × Builder}
    (puts : between.Puts (.unary 0 operator (between.tree operand).bare) result) :
    before.Gains depth [result.1] result.2 := by
  have whole : before.Gains depth ([] ++ [operand] ++ []) between := gains
  apply whole.replace_same puts
  · rw [Tree.keys, Tree.keys_bare]
    exact (List.append_nil _).symm
  · rw [Tree.nesting, Tree.nesting_bare]
    exact gains.nesting operand List.mem_cons_self

theorem Gains.binary (gains : before.Gains depth [left, right] between) {operator : BinaryOperator}
    {result : NodeId × Builder}
    (puts : between.Puts
      (.binary 0 operator (between.tree left).bare (between.tree right).bare) result) :
    before.Gains depth [result.1] result.2 := by
  have whole : before.Gains depth ([] ++ [left, right] ++ []) between := gains
  apply whole.replace_same puts
  · rw [Tree.keys, Tree.keys_bare, Tree.keys_bare]
    exact congrArg _ (List.append_nil _).symm
  · rw [Tree.nesting, Tree.nesting_bare, Tree.nesting_bare]
    apply Nat.max_le.mpr
    constructor
    · apply gains.nesting
      simp
    · apply gains.nesting
      simp

theorem Gains.aggregate (gains : before.Gains depth [operand] between)
    (function : AggregateFunction) (scope : Scope) :
    before.Gains (depth + 1)
      [((Build.aggregate function operand scope).run between).1]
      ((Build.aggregate function operand scope).run between).2 := by
  have whole : before.Gains (depth + 1) ([] ++ [operand] ++ []) between :=
    gains.mono (Nat.le_succ depth)
  have known := gains.known operand List.mem_cons_self
  have below := gains.valid.keysOf_lt [operand]
  have distinct := gains.distinct
  have same : between.keysOf [operand] = (between.tree operand).keys := List.append_nil _
  rw [same] at below distinct
  apply whole.replace (puts_aggregate gains.valid function scope known)
  · intro key member
    rw [Tree.keys, Tree.keys_bare] at member
    rw [same]
    rcases List.mem_cons.mp member with rfl | inside
    · exact .inr (Nat.le_refl _)
    · exact .inl inside
  · rw [Tree.keys, Tree.keys_bare, List.nodup_cons]
    refine ⟨?_, distinct⟩
    intro member
    exact Nat.lt_irrefl _ (below _ member)
  · rw [Tree.nesting, Tree.nesting_bare]
    exact Nat.succ_le_succ (gains.nesting operand List.mem_cons_self)

end

end Expression.Builder

namespace Formula

open Builder

section

variable {before between : Builder} {depth : Nat}

theorem gains_leaf {roots : List NodeId} (gains : before.Gains depth roots between) {tree : Tree}
    {result : NodeId × Builder} (puts : between.Puts tree result) (keys : tree.keys = [])
    (nesting : tree.nesting = 0) : before.Gains depth [result.1] result.2 := by
  have whole : before.Gains depth ([] ++ roots ++ []) between := by
    rw [List.append_nil]
    exact gains
  exact whole.replace_leaf puts keys nesting

theorem gains_degrade {roots : List NodeId} (gains : before.Gains depth roots between)
    (code : Diagnostic.Code) (message : String) :
    before.Gains depth [((degrade code message).run between).1]
      ((degrade code message).run between).2 :=
  gains_leaf gains (puts_report_null gains.valid _ .object) rfl rfl

theorem gains_buildUnary {operand : Option NodeId}
    (gains : before.Gains depth operand.toList between) (spelling : String) :
    before.Gains depth [((buildUnary spelling operand).run between).1]
      ((buildUnary spelling operand).run between).2 := by
  rw [buildUnary]
  cases UnaryOperation.ofSpelling? spelling with
  | none => exact gains_degrade gains _ _
  | some operation =>
      cases operation with
      | negate =>
          have required := gains.require_only "Negate" "Operand" .int32 rfl
          dsimp only
          rw [Build.run_bind]
          generalize (Build.require operand "Negate" "Operand" .int32).run between = made
            at required ⊢
          have puts := puts_negate required.valid (required.known made.1 List.mem_cons_self)
          split at puts
          · exact required.unary puts
          · exact gains_leaf required puts rfl rfl
      | not =>
          have required := gains.require_only "Not" "Operand" .boolean rfl
          dsimp only
          rw [Build.run_bind]
          generalize (Build.require operand "Not" "Operand" .boolean).run between = made
            at required ⊢
          exact required.unary
            (puts_unary required.valid .not (required.known made.1 List.mem_cons_self))

theorem gains_operation {left right : NodeId} (gains : before.Gains depth [left, right] between)
    (operation : Operation) :
    before.Gains depth [((operation.build left right).run between).1]
      ((operation.build left right).run between).2 := by
  have leftKnown : left < between.nodes.size := by
    apply gains.known
    simp
  have rightKnown : right < between.nodes.size := by
    apply gains.known
    simp
  cases operation with
  | arithmetic operation =>
      have puts := puts_arithmetic gains.valid operation leftKnown rightKnown
      split at puts
      · exact gains.binary puts
      · exact gains_leaf gains puts rfl rfl
  | compare comparison =>
      exact gains.binary (puts_binary gains.valid (.compare comparison) leftKnown rightKnown)
  | and => exact gains.binary (puts_binary gains.valid .and leftKnown rightKnown)
  | or => exact gains.binary (puts_binary gains.valid .or leftKnown rightKnown)

theorem gains_operands {left right : Option NodeId}
    (gains : before.Gains depth (left.toList ++ right.toList) between) (operation : Operation)
    (owner : String) (kind : Kind) {result : NodeId × Builder}
    (made : (do
      let left ← Build.require left owner "Left" kind
      let right ← Build.require right owner "Right" kind
      operation.build left right : Build NodeId).run between = result) :
    before.Gains depth [result.1] result.2 := by
  have first : before.Gains depth ([] ++ left.toList ++ right.toList) between := gains
  have leftRequired := first.require owner "Left" kind rfl
  rw [Build.run_bind] at made
  generalize (Build.require left owner "Left" kind).run between = leftMade
    at leftRequired made
  have second : before.Gains depth ([leftMade.1] ++ right.toList ++ []) leftMade.2 := by
    rw [List.append_nil]
    exact leftRequired
  have rightRequired := second.require owner "Right" kind rfl
  rw [Build.run_bind] at made
  generalize (Build.require right owner "Right" kind).run leftMade.2 = rightMade
    at rightRequired made
  rw [← made]
  exact gains_operation rightRequired operation

theorem gains_buildBinary {left right : Option NodeId}
    (gains : before.Gains depth (left.toList ++ right.toList) between) (spelling : String) :
    before.Gains depth [((buildBinary spelling left right).run between).1]
      ((buildBinary spelling left right).run between).2 := by
  rw [buildBinary]
  cases Operation.ofSpelling? spelling with
  | none => exact gains_degrade gains _ _
  | some operation =>
      dsimp only
      cases left <|> right with
      | none =>
          dsimp only
          rw [pure_bind]
          exact gains_operands gains operation _ operation.fallbackKind rfl
      | some present =>
          dsimp only
          rw [run_kind_bind]
          exact gains_operands gains operation _ (between.kind present) rfl

theorem gains_buildAggregate {inner : Option NodeId}
    (gains : before.Gains depth inner.toList between) (spelling : String) (scope : Scope) :
    before.Gains (depth + 1) [((buildAggregate spelling inner scope).run between).1]
      ((buildAggregate spelling inner scope).run between).2 := by
  rw [buildAggregate]
  cases AggregateFunction.ofName? spelling with
  | none => exact gains_degrade (gains.mono (Nat.le_succ depth)) _ _
  | some function =>
      dsimp only
      rw [Build.run_bind]
      have required := gains.require_only ("Aggregate '" ++ function.name ++ "'") "Expression"
        .float64 rfl
      generalize (Build.require inner ("Aggregate '" ++ function.name ++ "'") "Expression"
        .float64).run between = made at required ⊢
      exact required.aggregate function scope

end

/-! ## Formulas -/

theorem gains_buildTyped {builder : Builder} (valid : builder.Valid) (kind : Kind) (json : Json) :
    builder.Gains 0 [((buildTyped kind json).run builder).1]
      ((buildTyped kind json).run builder).2 := by
  rw [buildTyped]
  cases Value.ofJson kind json with
  | error error => exact gains_leaf (.nil valid) (puts_report_null valid _ kind) rfl rfl
  | ok value =>
      dsimp only
      split
      · exact gains_leaf (.nil valid) (puts_null valid kind) rfl rfl
      · exact gains_leaf (.nil valid) (puts_literal valid (Value.fits_own value)) rfl rfl

mutual

theorem gains_build {builder : Builder} (valid : builder.Valid) (fields : Fields)
    (formula : Formula) :
    builder.Gains formula.nesting [((build fields formula).run builder).1]
      ((build fields formula).run builder).2 := by
  cases formula with
  | literal value =>
      exact gains_leaf (.nil valid) (puts_literal valid (Value.fits_own _)) rfl rfl
  | typed value typeName =>
      rw [build]
      cases Kind.ofName? typeName with
      | some kind => exact gains_buildTyped valid kind value.val
      | none => exact gains_degrade (.nil valid) _ _
  | field name =>
      rw [build, buildField]
      cases fields.get? name with
      | some found => exact gains_leaf (.nil valid) (puts_field valid _ _) rfl rfl
      | none => exact gains_degrade (.nil valid) _ _
  | unary operator operand =>
      have operandGains := gains_buildOperand valid fields operand
      rw [build, Build.run_bind]
      exact gains_buildUnary operandGains operator
  | binary operator left right =>
      have leftGains := gains_buildOperand valid fields left
      rw [build, Build.run_bind]
      generalize (buildOperand fields left).run builder = leftMade at leftGains ⊢
      have rightGains := gains_buildOperand leftGains.valid fields right
      rw [Build.run_bind]
      generalize (buildOperand fields right).run leftMade.2 = rightMade at rightGains ⊢
      exact gains_buildBinary ((leftGains.mono (Nat.le_max_left _ _)).append
        (rightGains.mono (Nat.le_max_right _ _))) operator
  | aggregate function inner scope =>
      have innerGains := gains_buildOperand valid fields inner
      rw [build, Build.run_bind]
      exact gains_buildAggregate innerGains function scope

theorem gains_buildOperand {builder : Builder} (valid : builder.Valid) (fields : Fields)
    (operand : Option Formula) :
    builder.Gains (operandNesting operand) ((buildOperand fields operand).run builder).1.toList
      ((buildOperand fields operand).run builder).2 := by
  cases operand with
  | none => exact .nil valid
  | some formula =>
      have gains := gains_build valid fields formula
      rw [buildOperand, Build.run_bind]
      exact gains

end

end Formula

end GroupedReport
