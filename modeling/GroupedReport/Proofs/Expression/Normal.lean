import GroupedReport.Proofs.Expression.Folding

/-!
# Normal forms

A tree is normal if folding finds nothing to do in it: no operation on constants has a result, and
no identity stands beside an operand that could take the place of both. What was folded is normal,
and folding a normal tree changes nothing.
-/

namespace GroupedReport.Expression

namespace Tree

def UnaryRests (operator : UnaryOperator) (operand : Tree) : Prop :=
  ∀ value result, operand.constant? = some value → Operator.unary operator value ≠ .ok result

/-- Whether folding leaves an operator on two operands as it is: constants have no result, and
neither operand is an identity beside one that is no constant and has the kind of the result. -/
structure BinaryRests (operator : BinaryOperator) (left right : Tree) : Prop where
  noResult {leftValue rightValue result : Value} :
    left.constant? = some leftValue → right.constant? = some rightValue →
      Operator.binary operator leftValue rightValue ≠ .ok result
  noRightIdentity {constant : Value} :
    left.constant? = none → right.constant? = some constant →
      ¬(Fold.isRightIdentity operator constant = true ∧ left.kind = operator.resultKind)
  noLeftIdentity {constant : Value} :
    left.constant? = some constant → right.constant? = none →
      ¬(Fold.isLeftIdentity operator constant = true ∧ right.kind = operator.resultKind)

/-- Whether there is nothing to fold in a tree. -/
def IsNormal : Tree → Prop
  | unknown _ | literal _ _ _ | field _ _ _ => True
  | unary _ operator operand => operand.IsNormal ∧ UnaryRests operator operand
  | binary _ operator left right =>
      left.IsNormal ∧ right.IsNormal ∧ BinaryRests operator left right
  | aggregate _ _ inner _ _ _ => inner.IsNormal

/-! ## One operator -/

section

variable {operator : UnaryOperator} {operand : Tree}

theorem UnaryRests.foldedUnary_eq (rests : UnaryRests operator operand) :
    operand.foldedUnary operator = .unary 0 operator operand := by
  rw [foldedUnary]
  split
  · rename_i value constant
    split
    · rename_i result computed
      exact absurd computed (rests value result constant)
    · rfl
  · rfl

theorem isNormal_foldedUnary (operator : UnaryOperator) (normal : operand.IsNormal) :
    (operand.foldedUnary operator).IsNormal := by
  rw [foldedUnary]
  split
  · rename_i value constant
    split
    · trivial
    · rename_i error failed
      refine ⟨normal, ?_⟩
      intro other result same computed
      rw [constant] at same
      cases same
      rw [failed] at computed
      cases computed
  · rename_i notConstant
    refine ⟨normal, ?_⟩
    intro value result constant
    rw [notConstant] at constant
    cases constant

end

section

variable {operator : BinaryOperator} {left right : Tree}

theorem BinaryRests.foldedBinary_eq (rests : BinaryRests operator left right) :
    left.foldedBinary operator right = .binary 0 operator left right := by
  rw [foldedBinary]
  split
  · rename_i leftValue rightValue leftConstant rightConstant
    split
    · rename_i result computed
      exact absurd computed (rests.noResult leftConstant rightConstant)
    · rfl
  · rename_i constant notConstant rightConstant
    rw [if_neg]
    intro guarded
    rcases Bool.and_eq_true_iff.mp guarded with ⟨identity, kindEqual⟩
    exact rests.noRightIdentity notConstant rightConstant ⟨identity, eq_of_beq kindEqual⟩
  · rename_i constant leftConstant notConstant
    rw [if_neg]
    intro guarded
    rcases Bool.and_eq_true_iff.mp guarded with ⟨identity, kindEqual⟩
    exact rests.noLeftIdentity leftConstant notConstant ⟨identity, eq_of_beq kindEqual⟩
  · rfl

theorem binaryRests_of_constants {leftValue rightValue : Value} {error : OperatorError}
    (leftConstant : left.constant? = some leftValue)
    (rightConstant : right.constant? = some rightValue)
    (failed : Operator.binary operator leftValue rightValue = .error error) :
    BinaryRests operator left right where
  noResult leftSame rightSame computed := by
    rw [leftConstant] at leftSame
    rw [rightConstant] at rightSame
    cases leftSame
    cases rightSame
    rw [failed] at computed
    cases computed
  noRightIdentity notConstant := by
    rw [leftConstant] at notConstant
    cases notConstant
  noLeftIdentity _ notConstant := by
    rw [rightConstant] at notConstant
    cases notConstant

theorem binaryRests_of_right {constant : Value} (notConstant : left.constant? = none)
    (rightConstant : right.constant? = some constant)
    (guarded : ¬(Fold.isRightIdentity operator constant &&
      left.kind == operator.resultKind) = true) : BinaryRests operator left right where
  noResult leftConstant := by
    rw [notConstant] at leftConstant
    cases leftConstant
  noRightIdentity _ rightSame := by
    rw [rightConstant] at rightSame
    cases rightSame
    rw [Bool.and_eq_true, beq_iff_eq] at guarded
    exact guarded
  noLeftIdentity leftConstant := by
    rw [notConstant] at leftConstant
    cases leftConstant

theorem binaryRests_of_left {constant : Value} (leftConstant : left.constant? = some constant)
    (notConstant : right.constant? = none)
    (guarded : ¬(Fold.isLeftIdentity operator constant &&
      right.kind == operator.resultKind) = true) : BinaryRests operator left right where
  noResult _ rightConstant := by
    rw [notConstant] at rightConstant
    cases rightConstant
  noRightIdentity _ rightConstant := by
    rw [notConstant] at rightConstant
    cases rightConstant
  noLeftIdentity leftSame _ := by
    rw [leftConstant] at leftSame
    cases leftSame
    rw [Bool.and_eq_true, beq_iff_eq] at guarded
    exact guarded

theorem isNormal_foldedBinary (operator : BinaryOperator) (leftNormal : left.IsNormal)
    (rightNormal : right.IsNormal) : (left.foldedBinary operator right).IsNormal := by
  rw [foldedBinary]
  split
  · rename_i leftValue rightValue leftConstant rightConstant
    split
    · trivial
    · rename_i error failed
      exact ⟨leftNormal, rightNormal, binaryRests_of_constants leftConstant rightConstant failed⟩
  · rename_i constant notConstant rightConstant
    split
    · exact leftNormal
    · rename_i guarded
      exact ⟨leftNormal, rightNormal, binaryRests_of_right notConstant rightConstant guarded⟩
  · rename_i constant leftConstant notConstant
    split
    · exact rightNormal
    · rename_i guarded
      exact ⟨leftNormal, rightNormal, binaryRests_of_left leftConstant notConstant guarded⟩
  · rename_i leftNotConstant rightNotConstant
    refine ⟨leftNormal, rightNormal, ?_, ?_, ?_⟩ <;>
      simp [leftNotConstant, rightNotConstant]

end

/-! ## Trees -/

theorem isNormal_folded (tree : Tree) : tree.folded.IsNormal := by
  induction tree with
  | unknown | literal | field => trivial
  | unary id operator operand induction => exact isNormal_foldedUnary operator induction
  | binary id operator left right leftInduction rightInduction =>
      exact isNormal_foldedBinary operator leftInduction rightInduction
  | aggregate id function inner scope key kind induction => exact induction

theorem unaryRests_bare {operator : UnaryOperator} {operand : Tree} :
    UnaryRests operator operand.bare ↔ UnaryRests operator operand := by
  rw [UnaryRests, constant?_bare, UnaryRests]

theorem BinaryRests.congr {operator : BinaryOperator} {left right otherLeft otherRight : Tree}
    (rests : BinaryRests operator left right)
    (leftConstant : otherLeft.constant? = left.constant?)
    (rightConstant : otherRight.constant? = right.constant?)
    (leftKind : otherLeft.kind = left.kind) (rightKind : otherRight.kind = right.kind) :
    BinaryRests operator otherLeft otherRight where
  noResult := by
    rw [leftConstant, rightConstant]
    exact rests.noResult
  noRightIdentity := by
    rw [leftConstant, rightConstant, leftKind]
    exact rests.noRightIdentity
  noLeftIdentity := by
    rw [leftConstant, rightConstant, rightKind]
    exact rests.noLeftIdentity

theorem binaryRests_bare {operator : BinaryOperator} {left right : Tree} :
    BinaryRests operator left.bare right.bare ↔ BinaryRests operator left right := by
  constructor
  · intro rests
    exact rests.congr (constant?_bare left).symm (constant?_bare right).symm
      (kind_bare left).symm (kind_bare right).symm
  · intro rests
    exact rests.congr (constant?_bare left) (constant?_bare right) (kind_bare left)
      (kind_bare right)

@[simp] theorem isNormal_bare (tree : Tree) : tree.bare.IsNormal ↔ tree.IsNormal := by
  induction tree with
  | unknown | literal | field => exact Iff.rfl
  | unary id operator operand induction =>
      rw [bare, IsNormal, IsNormal, induction, unaryRests_bare]
  | binary id operator left right leftInduction rightInduction =>
      rw [bare, IsNormal, IsNormal, leftInduction, rightInduction, binaryRests_bare]
  | aggregate id function inner scope key kind induction => exact induction

theorem IsNormal.folded_eq {tree : Tree} (normal : tree.IsNormal) : tree.folded = tree.bare := by
  induction tree with
  | unknown | literal | field => rfl
  | unary id operator operand induction =>
      rcases normal with ⟨operandNormal, rests⟩
      rw [folded, induction operandNormal, (unaryRests_bare.mpr rests).foldedUnary_eq, bare]
  | binary id operator left right leftInduction rightInduction =>
      rcases normal with ⟨leftNormal, rightNormal, rests⟩
      rw [folded, leftInduction leftNormal, rightInduction rightNormal,
        (binaryRests_bare.mpr rests).foldedBinary_eq, bare]
  | aggregate id function inner scope key kind induction =>
      rw [folded, induction normal, bare]

end Tree

end GroupedReport.Expression
