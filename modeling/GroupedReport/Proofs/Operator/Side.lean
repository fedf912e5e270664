import GroupedReport.Expression.Fold
import GroupedReport.Proofs.Decimal.Identity
import GroupedReport.Proofs.Operator.Kind

/-!
# Identities that give back other values

In text and in decimals an operator with an identity on one side does not give back every value as
it was. The empty text turns a null into a text. A decimal identity gives back the number, but may
write it with more or fewer places.
-/

namespace GroupedReport

-- Powers are those of the core library, whatever else is imported.
attribute [local instance (high)] instPowNat

inductive Side where
  | left
  | right
deriving DecidableEq, Repr

namespace Side

def binary (side : Side) (operator : BinaryOperator) (constant operand : Value) :
    Except OperatorError Value :=
  match side with
  | left => Operator.binary operator constant operand
  | right => Operator.binary operator operand constant

def isIdentity (side : Side) (operator : BinaryOperator) (constant : Value) : Bool :=
  match side with
  | left => Expression.Fold.isLeftIdentity operator constant
  | right => Expression.Fold.isRightIdentity operator constant

end Side

/-! ## Text -/

def Value.orEmpty : Value → Value
  | .null => .string ""
  | value => value

theorem Side.binary_emptyText (side : Side) {value : Value} (fits : value.Fits .string) :
    side.binary .concat (.string "") value = .ok value.orEmpty := by
  rcases fits.cases (by decide) with rfl | own
  · cases side <;> rfl
  · cases value <;> cases own
    rename_i text
    cases side with
    | left => exact congrArg (Except.ok ∘ Value.string) (String.empty_append)
    | right => exact congrArg (Except.ok ∘ Value.string) (String.append_empty)

/-! ## Decimals -/

namespace Decimal

/-- Whether arithmetic with a zero or a one is sure to write a number as it was written. A sum with
a zero in front always does. A zero behind a zero is given back itself. A product has the places of
both factors, if there is room for them; a quotient is written anew if the one has any places. -/
def StaysWritten (operation : Arithmetic) (side : Side) (identity value : Decimal) : Prop :=
  match operation, side with
  | .plus, .left => True
  | .plus, .right | .minus, _ => value.isZero = false ∨ value = identity
  | .multiply, _ =>
      if value.isZero then value = zero
      else identity.scale = 0 ∨ value.scale = 28 ∨ 2 ^ (96 : Nat) ≤ value.coefficient * 10
  | .divide, _ => if value.isZero then value = zero else identity.scale = 0

theorem written_zero (value : Decimal) {identity : Decimal} (zero : identity.isZero = true) :
    (if value.isZero then identity else value).sameNumber value = true ∧
      ((if value.isZero then identity else value) = value ↔
        value.isZero = false ∨ value = identity) := by
  cases isZero : value.isZero with
  | true =>
      refine ⟨sameNumber_of_isZero zero isZero, ?_⟩
      rw [if_pos rfl]
      constructor
      · exact fun equal => .inr equal.symm
      · rintro (notZero | equal)
        · cases notZero
        · exact equal.symm
  | false => exact ⟨sameNumber_refl value, iff_of_true rfl (.inl rfl)⟩

end Decimal

theorem Operator.binary_decimal {operation : Arithmetic} {left right : Value}
    {leftNumber rightNumber : Decimal} (leftPresent : left.isNull = false)
    (rightPresent : right.isNull = false) (leftRead : left.toDecimal = .ok leftNumber)
    (rightRead : right.toDecimal = .ok rightNumber) :
    binary (.arithmetic operation .decimal) left right =
      .decimal <$> decimal operation leftNumber rightNumber := by
  rw [binary, leftPresent, rightPresent, Bool.or_false, if_neg Bool.false_ne_true, arithmetic,
    leftRead, rightRead]
  rfl

namespace Side

def decimal (side : Side) (operation : Arithmetic) (constant number : Decimal) :
    Except OperatorError Decimal :=
  match side with
  | left => Operator.decimal operation constant number
  | right => Operator.decimal operation number constant

def IsDecimalIdentity (side : Side) (operation : Arithmetic) (identity : Decimal) : Prop :=
  match operation with
  | .plus => identity.isZero = true
  | .minus => side = right ∧ identity.isZero = true
  | .multiply => identity.IsOne
  | .divide => side = right ∧ identity.IsOne

theorem toDecimal_of_isIdentity {side : Side} {operation : Arithmetic} {constant : Value}
    (identity : side.isIdentity (.arithmetic operation .decimal) constant = true) :
    constant.isNull = false ∧ ∃ number, constant.toDecimal = .ok number ∧
      side.IsDecimalIdentity operation number := by
  have zero {negative : Bool} (isZero : Expression.Fold.isZero negative .decimal constant = true) :
      constant.isNull = false ∧ ∃ number, constant.toDecimal = .ok number ∧
        number.isZero = true := by
    cases constant with
    | decimal number => exact ⟨rfl, number, rfl, isZero⟩
    | int32 number =>
        cases eq_of_beq isZero
        exact ⟨rfl, .zero, rfl, rfl⟩
    | _ => cases isZero
  have one (isOne : Expression.Fold.isOne .decimal constant = true) :
      constant.isNull = false ∧ ∃ number, constant.toDecimal = .ok number ∧ number.IsOne := by
    cases constant with
    | decimal number => exact ⟨rfl, number, rfl, Decimal.isOne_of_sameNumber isOne⟩
    | int32 number =>
        cases eq_of_beq isOne
        exact ⟨rfl, .one, rfl, rfl, rfl⟩
    | _ => cases isOne
  cases side with
  | left =>
      cases operation with
      | plus => exact zero identity
      | multiply => exact one identity
      | minus | divide => cases identity
  | right =>
      cases operation with
      | plus => exact zero identity
      | minus =>
          rcases zero identity with ⟨notNull, number, read, isZero⟩
          exact ⟨notNull, number, read, rfl, isZero⟩
      | multiply => exact one identity
      | divide =>
          rcases one identity with ⟨notNull, number, read, isOne⟩
          exact ⟨notNull, number, read, rfl, isOne⟩

theorem decimal_identity {side : Side} {operation : Arithmetic} {identity number : Decimal}
    (isIdentity : side.IsDecimalIdentity operation identity) :
    ∃ result, side.decimal operation identity number = .ok result ∧
      result.sameNumber number = true ∧
      (Decimal.StaysWritten operation side identity number → result = number) ∧
      (operation ≠ .divide → result = number →
        Decimal.StaysWritten operation side identity number) := by
  cases operation with
  | plus =>
      cases side with
      | left =>
          refine ⟨number, ?_, Decimal.sameNumber_refl number, fun _ => rfl, fun _ _ => trivial⟩
          rw [decimal, Operator.decimal, Decimal.zero_add? isIdentity]
      | right =>
          rcases Decimal.written_zero number isIdentity with ⟨same, written⟩
          refine ⟨_, ?_, same, written.mpr, fun _ => written.mp⟩
          rw [decimal, Operator.decimal, Decimal.add?_zero isIdentity]
  | minus =>
      rcases isIdentity with ⟨rfl, zero⟩
      rcases Decimal.written_zero number zero with ⟨same, written⟩
      refine ⟨_, ?_, same, written.mpr, fun _ => written.mp⟩
      rw [decimal, Operator.decimal, Decimal.subtract?_zero zero]
  | multiply =>
      rcases Decimal.multiply?_one number isIdentity with ⟨result, computed, same, written⟩
      refine ⟨result, ?_, same, written.mpr, fun _ => written.mp⟩
      cases side with
      | left => rw [decimal, Operator.decimal, Decimal.multiply?_comm, computed]
      | right => rw [decimal, Operator.decimal, computed]
  | divide =>
      rcases isIdentity with ⟨rfl, one⟩
      rcases Decimal.divide?_one number one with ⟨result, computed, same, written⟩
      refine ⟨result, ?_, same, written, fun notDivide => absurd rfl notDivide⟩
      have notZero : identity.isZero = false :=
        Decimal.isZero_of_coefficient_pos
          (Nat.lt_of_lt_of_eq (Nat.pow_pos (by decide)) one.coefficient.symm)
      rw [decimal, Operator.decimal, notZero, if_neg Bool.false_ne_true, computed]

theorem binary_decimal {side : Side} {operation : Arithmetic} {constant : Value}
    {identity number result : Decimal} (notNull : constant.isNull = false)
    (read : constant.toDecimal = .ok identity)
    (computed : side.decimal operation identity number = .ok result) :
    side.binary (.arithmetic operation .decimal) constant (.decimal number) =
      .ok (.decimal result) := by
  have mapped : side.binary (.arithmetic operation .decimal) constant (.decimal number) =
      .decimal <$> side.decimal operation identity number := by
    cases side with
    | left => exact Operator.binary_decimal notNull rfl read rfl
    | right => exact Operator.binary_decimal rfl notNull rfl read
  rw [mapped, computed]
  rfl

theorem binary_null (side : Side) (operation : Arithmetic) (numeric : NumericKind)
    (constant : Value) :
    side.binary (.arithmetic operation numeric) constant .null = .ok .null := by
  cases side with
  | left =>
      rw [binary, Operator.binary, Value.isNull.eq_1, Bool.or_true]
      rfl
  | right => rfl

end Side

end GroupedReport
