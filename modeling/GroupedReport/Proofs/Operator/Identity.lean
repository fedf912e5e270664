import GroupedReport.Expression.Fold
import GroupedReport.Proofs.Binary64.Identity
import GroupedReport.Proofs.Operator.Kind

/-!
# Identities of operators

Folding drops an operator with an identity on one side. In whole numbers and in doubles that gives
back every value as it was. In decimals it can change how a number is written, and in text what a
null becomes.
-/

namespace GroupedReport

open Expression (Fold.isZero Fold.isOne Fold.isRightIdentity Fold.isLeftIdentity)

/-- Whether the identities of an operator give back every value as it was. -/
def BinaryOperator.HasExactIdentities : BinaryOperator → Prop
  | concat | arithmetic _ .decimal => False
  | _ => True

namespace Operator

/-! ## Constants -/

theorem eq_of_isZero_int32 {negative : Bool} {constant : Value}
    (zero : Fold.isZero negative .int32 constant = true) : constant = .int32 0 := by
  cases constant with
  | int32 number => exact congrArg Value.int32 (eq_of_beq zero)
  | _ => cases zero

theorem eq_of_isOne_int32 {constant : Value} (one : Fold.isOne .int32 constant = true) :
    constant = .int32 1 := by
  cases constant with
  | int32 number => exact congrArg Value.int32 (eq_of_beq one)
  | _ => cases one

theorem toFloat64_of_isZero {negative : Bool} {constant : Value}
    (zero : Fold.isZero negative .float64 constant = true) :
    constant.isNull = false ∧ constant.toFloat64 = .ok (Binary64.zero negative) := by
  rcases Bool.and_eq_true_iff.mp zero with ⟨notNull, reads⟩
  refine ⟨(Bool.not_eq_true' _).mp notNull, ?_⟩
  cases read : constant.toFloat64 with
  | error error =>
      rw [read] at reads
      cases reads
  | ok number =>
      rw [read] at reads
      rcases Bool.and_eq_true_iff.mp reads with ⟨isZero, sign⟩
      rw [Binary64.eq_zero_of_beq isZero, eq_of_beq sign]

theorem toFloat64_of_isOne {constant : Value} (one : Fold.isOne .float64 constant = true) :
    constant.isNull = false ∧ constant.toFloat64 = .ok (Binary64.ofNat 1) := by
  rcases Bool.and_eq_true_iff.mp one with ⟨notNull, reads⟩
  refine ⟨(Bool.not_eq_true' _).mp notNull, ?_⟩
  cases read : constant.toFloat64 with
  | error error =>
      rw [read] at reads
      cases reads
  | ok number =>
      rw [read] at reads
      rw [Binary64.eq_one_of_beq reads]

/-! ## Operators -/

theorem binary_float64_right {operation : Arithmetic} {number identity : Float} {constant : Value}
    (notNull : constant.isNull = false) (read : constant.toFloat64 = .ok identity) :
    binary (.arithmetic operation .float64) (.float64 number) constant =
      .ok (.float64 (float64 operation number identity)) := by
  rw [binary, notNull, arithmetic, read]
  rfl

theorem binary_float64_left {operation : Arithmetic} {number identity : Float} {constant : Value}
    (notNull : constant.isNull = false) (read : constant.toFloat64 = .ok identity) :
    binary (.arithmetic operation .float64) constant (.float64 number) =
      .ok (.float64 (float64 operation identity number)) := by
  rw [binary, notNull, arithmetic, read]
  rfl

theorem binary_of_isRightIdentity {operator : BinaryOperator} {constant value : Value}
    (exact : operator.HasExactIdentities)
    (identity : Fold.isRightIdentity operator constant = true)
    (fits : value.Fits operator.resultKind) : binary operator value constant = .ok value := by
  cases operator with
  | concat => cases exact
  | compare | and | or => cases identity
  | arithmetic operation numeric =>
      have transparent : numeric.kind ≠ .object := by cases numeric <;> decide
      rcases fits.cases transparent with rfl | own
      · rfl
      · cases numeric with
        | decimal => cases exact
        | int32 =>
            cases value <;> cases own
            rename_i number
            cases operation with
            | plus =>
                cases eq_of_isZero_int32 identity
                exact congrArg (Except.ok ∘ Value.int32) (Int32.add_zero number)
            | minus =>
                cases eq_of_isZero_int32 identity
                exact congrArg (Except.ok ∘ Value.int32) (Int32.sub_zero number)
            | multiply =>
                cases eq_of_isOne_int32 identity
                exact congrArg (Except.ok ∘ Value.int32) (Int32.mul_one number)
            | divide =>
                cases eq_of_isOne_int32 identity
                exact congrArg (Except.ok ∘ Value.int32) Int32.div_one
        | float64 =>
            cases value <;> cases own
            rename_i number
            cases operation with
            | plus =>
                rcases toFloat64_of_isZero identity with ⟨notNull, read⟩
                rw [binary_float64_right notNull read, float64, Binary64.add_negativeZero]
            | minus =>
                rcases toFloat64_of_isZero identity with ⟨notNull, read⟩
                rw [binary_float64_right notNull read, float64, Binary64.subtract_positiveZero]
            | multiply =>
                rcases toFloat64_of_isOne identity with ⟨notNull, read⟩
                rw [binary_float64_right notNull read, float64, Binary64.multiply_one]
            | divide =>
                rcases toFloat64_of_isOne identity with ⟨notNull, read⟩
                rw [binary_float64_right notNull read, float64, Binary64.divide_one]

theorem binary_of_isLeftIdentity {operator : BinaryOperator} {constant value : Value}
    (exact : operator.HasExactIdentities)
    (identity : Fold.isLeftIdentity operator constant = true)
    (fits : value.Fits operator.resultKind) : binary operator constant value = .ok value := by
  cases operator with
  | concat => cases exact
  | compare | and | or => cases identity
  | arithmetic operation numeric =>
      have transparent : numeric.kind ≠ .object := by cases numeric <;> decide
      rcases fits.cases transparent with rfl | own
      · rw [binary, Value.isNull.eq_1, Bool.or_true]
        rfl
      · cases numeric with
        | decimal => cases exact
        | int32 =>
            cases value <;> cases own
            rename_i number
            cases operation with
            | plus =>
                cases eq_of_isZero_int32 identity
                exact congrArg (Except.ok ∘ Value.int32) (Int32.zero_add number)
            | multiply =>
                cases eq_of_isOne_int32 identity
                exact congrArg (Except.ok ∘ Value.int32) (Int32.one_mul number)
            | minus | divide => cases identity
        | float64 =>
            cases value <;> cases own
            rename_i number
            cases operation with
            | plus =>
                rcases toFloat64_of_isZero identity with ⟨notNull, read⟩
                rw [binary_float64_left notNull read, float64, Binary64.negativeZero_add]
            | multiply =>
                rcases toFloat64_of_isOne identity with ⟨notNull, read⟩
                rw [binary_float64_left notNull read, float64, Binary64.one_multiply]
            | minus | divide => cases identity

end Operator

end GroupedReport
