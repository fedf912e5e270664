import GroupedReport.Proofs.Binary64.Order
import GroupedReport.Proofs.Operator.Kind

/-!
# Values without an order

Numbers have an order unless one of them is a double that is not a number. Operators fail for want
of an order where a comparison asks for the order of such values, and nowhere else.
-/

namespace GroupedReport

theorem Kind.transparent_of_isNumeric {kind : Kind} (numeric : kind.isNumeric = true) :
    kind ≠ .object := by
  rintro rfl
  cases numeric

namespace Value

theorem compare?_of_isAbsent {left right : Value}
    (absent : left.isAbsent = true ∨ right.isAbsent = true) : left.compare? right = none := by
  rcases absent with absent | absent
  · cases left with
    | null => rfl
    | float64 number =>
        cases right <;> first
          | rfl
          | exact Binary64.compare?_eq_none_iff.mpr (.inl absent)
    | _ => cases absent
  · cases right with
    | null => cases left <;> rfl
    | float64 number =>
        cases left <;> first
          | rfl
          | exact Binary64.compare?_eq_none_iff.mpr (.inr absent)
    | _ => cases absent

theorem compare?_eq_none_iff {left right : Value} {leftKind rightKind : Kind}
    (leftFits : left.Fits leftKind) (rightFits : right.Fits rightKind)
    (leftNumeric : leftKind.isNumeric = true) (rightNumeric : rightKind.isNumeric = true) :
    left.compare? right = none ↔ left.isAbsent = true ∨ right.isAbsent = true := by
  refine ⟨?_, compare?_of_isAbsent⟩
  intro unordered
  have ofInt (number : Int32) : ¬(Binary64.ofInt number.toInt).isNaN = true := by
    rw [Binary64.isNaN_ofInt]
    decide
  have ofDecimal (number : Decimal) : ¬number.toFloat.isNaN = true := by
    rw [Decimal.isNaN_toFloat]
    decide
  rcases leftFits.cases (Kind.transparent_of_isNumeric leftNumeric) with rfl | leftOwn
  · exact .inl rfl
  rcases rightFits.cases (Kind.transparent_of_isNumeric rightNumeric) with rfl | rightOwn
  · exact .inr rfl
  cases left with
  | int32 number =>
      cases right with
      | int32 | decimal => cases unordered
      | float64 other =>
          exact .inr ((Binary64.compare?_eq_none_iff.mp unordered).resolve_left (ofInt number))
      | _ => cases rightOwn <;> cases rightNumeric
  | decimal number =>
      cases right with
      | int32 | decimal => cases unordered
      | float64 other =>
          exact .inr ((Binary64.compare?_eq_none_iff.mp unordered).resolve_left (ofDecimal number))
      | _ => cases rightOwn <;> cases rightNumeric
  | float64 number =>
      cases right with
      | int32 other =>
          exact .inl ((Binary64.compare?_eq_none_iff.mp unordered).resolve_right (ofInt other))
      | decimal other =>
          exact .inl ((Binary64.compare?_eq_none_iff.mp unordered).resolve_right (ofDecimal other))
      | float64 other => exact Binary64.compare?_eq_none_iff.mp unordered
      | _ => cases rightOwn <;> cases rightNumeric
  | _ => cases leftOwn <;> cases leftNumeric

end Value

def Comparison.isOrdering : Comparison → Bool
  | equal | notEqual => false
  | less | lessOrEqual | greater | greaterOrEqual => true

namespace Operator

def IsOrdered (result : Except OperatorError α) : Prop :=
  ∀ left right, result ≠ .error (.notComparable left right)

theorem isOrdered_ok (value : α) : IsOrdered (.ok value) := by
  intro left right impossible
  cases impossible

theorem IsOrdered.bind {result : Except OperatorError α} {next : α → Except OperatorError β}
    (first : IsOrdered result) (second : ∀ value, IsOrdered (next value)) :
    IsOrdered (result >>= next) := by
  intro left right failed
  cases result with
  | error error => exact first left right (congrArg Except.error (Except.error.inj failed))
  | ok value => exact second value left right failed

theorem IsOrdered.map {result : Except OperatorError α} (ordered : IsOrdered result)
    (transform : α → β) : IsOrdered (transform <$> result) :=
  fun left right failed => ordered left right (Result.map_eq_error failed)

theorem isOrdered_operand (converted : Except CoercionError α) :
    IsOrdered (operand converted) := by
  intro left right failed
  rcases Result.mapError_eq_error failed with ⟨coercion, _, impossible⟩
  cases impossible

theorem isOrdered_of_isArithmeticError {operation : Arithmetic} {numeric : NumericKind}
    {result : Except OperatorError α}
    (each : ∀ error, result = .error error → IsArithmeticError operation numeric error) :
    IsOrdered result := by
  intro left right failed
  rcases each _ failed with ⟨impossible, _⟩ | ⟨impossible, _⟩ <;> cases impossible

theorem isOrdered_arithmetic (operation : Arithmetic) (numeric : NumericKind)
    (left right : Value) : IsOrdered (arithmetic operation numeric left right) := by
  cases numeric with
  | int32 =>
      refine (isOrdered_operand _).bind fun left => (isOrdered_operand _).bind fun right => ?_
      apply IsOrdered.map
      exact isOrdered_of_isArithmeticError fun _ => isArithmeticError_int32
  | decimal =>
      refine (isOrdered_operand _).bind fun left => (isOrdered_operand _).bind fun right => ?_
      apply IsOrdered.map
      exact isOrdered_of_isArithmeticError fun _ => isArithmeticError_decimal
  | float64 =>
      refine (isOrdered_operand _).bind fun left => (isOrdered_operand _).bind fun right => ?_
      exact isOrdered_ok _

theorem isOrdered_truth? (value : Value) : IsOrdered (truth? value) := by
  rw [truth?]
  split
  · exact isOrdered_ok _
  · exact (isOrdered_operand _).map _

theorem isOrdered_logical (dominant : Bool) (left right : Value) :
    IsOrdered (logical dominant left right) := by
  refine (isOrdered_truth? left).bind fun left => (isOrdered_truth? right).bind fun right => ?_
  split
  · exact isOrdered_ok _
  · split <;> exact isOrdered_ok _

theorem isOrdered_unary (operator : UnaryOperator) (value : Value) :
    IsOrdered (unary operator value) := by
  unfold unary
  split
  · exact isOrdered_ok _
  · split <;> exact (isOrdered_operand _).map _

theorem compare_eq_notComparable_iff {comparison : Comparison} {left right : Value}
    {leftKind? rightKind? : Option Kind} :
    compare comparison left right = .error (.notComparable leftKind? rightKind?) ↔
      comparison.isOrdering = true ∧ left.compare? right = none ∧
        left.kind? = leftKind? ∧ right.kind? = rightKind? := by
  cases order : left.compare? right with
  | some ordering =>
      have gives : compare comparison left right = .ok (satisfies comparison ordering) := by
        unfold compare
        rw [order]
      rw [gives]
      exact iff_of_false nofun fun ⟨_, impossible, _⟩ => nomatch impossible
  | none =>
      cases comparison with
      | equal | notEqual =>
          rw [compare, order]
          exact iff_of_false nofun fun ⟨impossible, _⟩ => nomatch impossible
      | less | lessOrEqual | greater | greaterOrEqual =>
          unfold compare
          rw [order]
          simp [Comparison.isOrdering]

theorem binary_compare_cases (comparison : Comparison) (left right : Value) :
    (∃ result, binary (.compare comparison) left right = .ok result) ∨
      binary (.compare comparison) left right =
        .error (.notComparable left.kind? right.kind?) := by
  rw [binary]
  split
  · exact .inl ⟨.null, rfl⟩
  · rcases compared : compare comparison left right with error | truth
    · right
      unfold compare at compared
      split at compared
      · cases compared
      · split at compared <;> cases compared
        rfl
    · exact .inl ⟨.boolean truth, rfl⟩

theorem binary_eq_notComparable_iff {operator : BinaryOperator} {left right : Value}
    {leftKind? rightKind? : Option Kind} :
    binary operator left right = .error (.notComparable leftKind? rightKind?) ↔
      (∃ comparison, operator = .compare comparison ∧ comparison.isOrdering = true) ∧
        left.isNull = false ∧ right.isNull = false ∧ left.compare? right = none ∧
        left.kind? = leftKind? ∧ right.kind? = rightKind? := by
  have never (ordered : IsOrdered (binary operator left right))
      (different : ∀ comparison, operator ≠ .compare comparison) :
      binary operator left right = .error (.notComparable leftKind? rightKind?) ↔
        (∃ comparison, operator = .compare comparison ∧ comparison.isOrdering = true) ∧
          left.isNull = false ∧ right.isNull = false ∧ left.compare? right = none ∧
          left.kind? = leftKind? ∧ right.kind? = rightKind? :=
    iff_of_false (ordered _ _) fun ⟨⟨comparison, equal, _⟩, _⟩ => different comparison equal
  cases operator with
  | concat => exact never (isOrdered_ok _) fun _ impossible => by cases impossible
  | and => exact never (isOrdered_logical false left right) fun _ impossible => by cases impossible
  | or => exact never (isOrdered_logical true left right) fun _ impossible => by cases impossible
  | arithmetic operation numeric =>
      refine never ?_ fun _ impossible => by cases impossible
      rw [binary]
      split
      · exact isOrdered_ok _
      · exact isOrdered_arithmetic operation numeric left right
  | compare comparison =>
      rw [binary]
      split
      · rename_i null
        constructor
        · intro impossible
          cases impossible
        · rintro ⟨_, leftPresent, rightPresent, _⟩
          rw [leftPresent, rightPresent] at null
          cases null
      · rename_i present
        have presence := Bool.or_eq_false_iff.mp (Bool.not_eq_true _ ▸ present)
        have mapped : (Value.boolean <$> compare comparison left right) =
            .error (.notComparable leftKind? rightKind?) ↔
              compare comparison left right = .error (.notComparable leftKind? rightKind?) := by
          refine ⟨Result.map_eq_error, ?_⟩
          intro failed
          rw [failed]
          rfl
        rw [mapped, compare_eq_notComparable_iff]
        refine ⟨?_, ?_⟩
        · rintro ⟨ordering, unordered⟩
          exact ⟨⟨comparison, rfl, ordering⟩, presence.1, presence.2, unordered⟩
        · rintro ⟨⟨_, ⟨⟩, ordering⟩, _, _, unordered⟩
          exact ⟨ordering, unordered⟩

end Operator

end GroupedReport
