import GroupedReport.Operator.Apply
import GroupedReport.Proofs.Result
import GroupedReport.Value.Json

/-!
# Kinds of results

The value that an operator or a conversion gives is null or of the kind that was announced for it.
Arithmetic whose operands have kinds that lead up to its own never fails to convert them.
-/

namespace GroupedReport

/-- Whether a value may come out of an expression of a kind: a null or a value of the kind, and
anything at all where the kind is opaque. -/
def Value.Fits (value : Value) (kind : Kind) : Prop :=
  kind = .object ∨ value = .null ∨ value.kind? = some kind

theorem NumericKind.kind_of_ofKind? {kind : Kind} {numeric : NumericKind}
    (found : ofKind? kind = some numeric) : kind = numeric.kind := by
  cases kind <;> cases found <;> rfl

namespace Value

theorem fits_null (kind : Kind) : Fits .null kind :=
  .inr (.inl rfl)

theorem fits_of_kind? {value : Value} {kind : Kind} (own : value.kind? = some kind) :
    value.Fits kind :=
  .inr (.inr own)

theorem fits_own (value : Value) : value.Fits (value.kind?.getD .object) := by
  cases value <;> first | exact .inl rfl | exact fits_of_kind? rfl

theorem Fits.cases {value : Value} {kind : Kind} (fits : value.Fits kind)
    (transparent : kind ≠ .object) : value = .null ∨ value.kind? = some kind :=
  fits.resolve_left transparent

theorem fits_of_readAs {value result : Value} {kind : Kind}
    (read : value.readAs kind = .ok result) : result.Fits kind := by
  cases kind with
  | object => exact .inl rfl
  | string =>
      cases read
      exact fits_of_kind? rfl
  | boolean | int32 | float64 | decimal | dateTime =>
      rcases Result.map_eq_ok read with ⟨_, _, rfl⟩
      exact fits_of_kind? rfl

theorem fits_of_coerce {value result : Value} {kind : Kind}
    (coerced : value.coerce kind = .ok result) : result.Fits kind := by
  rw [coerce] at coerced
  split at coerced
  · rename_i unchanged
    cases coerced
    rcases unchanged with missing | own
    · cases value <;> first | exact fits_null kind | cases missing
    · exact fits_of_kind? own
  · exact fits_of_readAs coerced

theorem coerce_of_kind? {kind : Kind} {value : Value}
    (own : value = .null ∨ value.kind? = some kind) : value.coerce kind = .ok value := by
  apply if_pos
  rcases own with rfl | own
  · exact .inl rfl
  · exact .inr own

/-! ## Values of JSON -/

theorem kind?_of_ofJson {kind : Kind} {json : Json} {value : Value}
    (read : ofJson kind json = .ok value) : value = .null ∨ value.kind? = some kind := by
  unfold ofJson at read
  split at read
  · cases read
    exact .inl rfl
  · cases kind with
    | object =>
        cases read
        exact .inr rfl
    | _ => exact (fits_of_coerce read).cases nofun

theorem readAs_ne_null {kind : Kind} {value : Value} (present : value ≠ .null) :
    value.readAs kind ≠ .ok .null := by
  intro read
  cases kind with
  | object => exact present (Except.ok.inj read)
  | string => cases read
  | boolean | int32 | float64 | decimal | dateTime =>
      rcases Result.map_eq_ok read with ⟨_, _, impossible⟩
      cases impossible

theorem eq_null_of_ofJson {kind : Kind} {json : Json} (read : ofJson kind json = .ok .null) :
    json = .null := by
  unfold ofJson at read
  split at read
  · rfl
  · rw [coerce] at read
    split at read
    · cases read
    · exact absurd read (readAs_ne_null nofun)

theorem eq_null_of_infer {json : Json} (inferred : infer json = .null) : json = .null := by
  unfold infer at inferred
  split at inferred
  · rfl
  · cases inferred
  · split at inferred <;> cases inferred
  all_goals cases inferred

end Value

namespace Operator

theorem fits_of_arithmetic {operation : Arithmetic} {numeric : NumericKind}
    {left right result : Value} (computed : arithmetic operation numeric left right = .ok result) :
    result.Fits numeric.kind := by
  cases numeric with
  | int32 | decimal =>
      rcases Result.bind_eq_ok computed with ⟨leftNumber, _, computed⟩
      rcases Result.bind_eq_ok computed with ⟨rightNumber, _, computed⟩
      rcases Result.map_eq_ok computed with ⟨number, _, rfl⟩
      exact Value.fits_of_kind? rfl
  | float64 =>
      rcases Result.bind_eq_ok computed with ⟨leftNumber, _, computed⟩
      rcases Result.bind_eq_ok computed with ⟨rightNumber, _, computed⟩
      cases computed
      exact Value.fits_of_kind? rfl

theorem fits_of_logical {dominant : Bool} {left right result : Value}
    (computed : logical dominant left right = .ok result) : result.Fits .boolean := by
  rcases Result.bind_eq_ok computed with ⟨leftTruth, _, computed⟩
  rcases Result.bind_eq_ok computed with ⟨rightTruth, _, computed⟩
  split at computed
  · cases computed
    exact Value.fits_of_kind? rfl
  · split at computed
    · cases computed
      exact Value.fits_of_kind? rfl
    · cases computed
      exact Value.fits_null _

theorem fits_of_binary {operator : BinaryOperator} {left right result : Value}
    (computed : binary operator left right = .ok result) : result.Fits operator.resultKind := by
  cases operator with
  | concat =>
      cases computed
      exact Value.fits_of_kind? rfl
  | and | or => exact fits_of_logical computed
  | compare comparison =>
      rw [binary] at computed
      split at computed
      · cases computed
        exact Value.fits_null _
      · rcases Result.map_eq_ok computed with ⟨_, _, rfl⟩
        exact Value.fits_of_kind? rfl
  | arithmetic operation numeric =>
      rw [binary] at computed
      split at computed
      · cases computed
        exact Value.fits_null _
      · exact fits_of_arithmetic computed

theorem fits_of_unary {operator : UnaryOperator} {value result : Value}
    (computed : unary operator value = .ok result) : result.Fits operator.resultKind := by
  unfold unary at computed
  split at computed
  · cases computed
    exact Value.fits_null _
  · split at computed <;>
      · rcases Result.map_eq_ok computed with ⟨_, _, rfl⟩
        exact Value.fits_of_kind? rfl

/-! ## Arithmetic without conversion errors -/

/-- Whether an error comes out of an operation itself, and not out of reading its operands. Only a
division divides by zero, and only decimals overflow. -/
def IsArithmeticError (operation : Arithmetic) (numeric : NumericKind) (error : OperatorError) :
    Prop :=
  error = .divisionByZero ∧ operation = .divide ∨
    error = .overflow operation ∧ numeric = .decimal

theorem isArithmeticError_int32 {operation : Arithmetic} {left right : Int32}
    {error : OperatorError} (failed : int32 operation left right = .error error) :
    IsArithmeticError operation .int32 error := by
  cases operation with
  | plus | minus | multiply => cases failed
  | divide =>
      rw [int32] at failed
      split at failed
      · cases failed
        exact .inl ⟨rfl, rfl⟩
      · cases failed

theorem isArithmeticError_decimal {operation : Arithmetic} {left right : Decimal}
    {error : OperatorError} (failed : decimal operation left right = .error error) :
    IsArithmeticError operation .decimal error := by
  cases operation with
  | plus | minus | multiply =>
      dsimp only [decimal] at failed
      split at failed
      · rename_i noError
        cases noError
      · cases failed
        exact .inr ⟨rfl, rfl⟩
      · cases failed
  | divide =>
      dsimp only [decimal] at failed
      split at failed
      · rename_i given
        split at given
        · cases given
          cases failed
          exact .inl ⟨rfl, rfl⟩
        · cases given
      · cases failed
        exact .inr ⟨rfl, rfl⟩
      · cases failed

/-- The kinds whose values are read in a numeric kind without fail: those that are promoted to
it. -/
def widensTo : Kind → NumericKind → Bool
  | .int32, _ => true
  | .decimal, .decimal | .decimal, .float64 => true
  | .float64, .float64 => true
  | _, _ => false

theorem widensTo_of_promote? {left right : Kind} {numeric : NumericKind}
    (promoted : left.promote? right = some numeric.kind) :
    widensTo left numeric = true ∧ widensTo right numeric = true := by
  cases numeric <;> cases left <;> cases right <;>
    first | exact ⟨rfl, rfl⟩ | exact absurd promoted (by decide)

theorem toInt32_of_widensTo {value : Value} {kind : Kind} (own : value.kind? = some kind)
    (widens : widensTo kind .int32 = true) : ∃ number, value.toInt32 = .ok number := by
  cases value <;> cases own <;> first | exact ⟨_, rfl⟩ | exact absurd widens (by decide)

theorem toDecimal_of_widensTo {value : Value} {kind : Kind} (own : value.kind? = some kind)
    (widens : widensTo kind .decimal = true) : ∃ number, value.toDecimal = .ok number := by
  cases value <;> cases own <;> first | exact ⟨_, rfl⟩ | exact absurd widens (by decide)

theorem toFloat64_of_widensTo {value : Value} {kind : Kind} (own : value.kind? = some kind)
    (widens : widensTo kind .float64 = true) : ∃ number, value.toFloat64 = .ok number := by
  cases value <;> cases own <;> first | exact ⟨_, rfl⟩ | exact absurd widens (by decide)

theorem isArithmeticError_arithmetic {operation : Arithmetic} {numeric : NumericKind}
    {left right : Value} {leftKind rightKind : Kind} {error : OperatorError}
    (leftOwn : left.kind? = some leftKind) (rightOwn : right.kind? = some rightKind)
    (leftWidens : widensTo leftKind numeric = true)
    (rightWidens : widensTo rightKind numeric = true)
    (failed : arithmetic operation numeric left right = .error error) :
    IsArithmeticError operation numeric error := by
  cases numeric with
  | int32 =>
      rcases toInt32_of_widensTo leftOwn leftWidens with ⟨leftNumber, leftRead⟩
      rcases toInt32_of_widensTo rightOwn rightWidens with ⟨rightNumber, rightRead⟩
      rw [arithmetic, leftRead, rightRead] at failed
      exact isArithmeticError_int32 (Result.map_eq_error failed)
  | decimal =>
      rcases toDecimal_of_widensTo leftOwn leftWidens with ⟨leftNumber, leftRead⟩
      rcases toDecimal_of_widensTo rightOwn rightWidens with ⟨rightNumber, rightRead⟩
      rw [arithmetic, leftRead, rightRead] at failed
      exact isArithmeticError_decimal (Result.map_eq_error failed)
  | float64 =>
      rcases toFloat64_of_widensTo leftOwn leftWidens with ⟨leftNumber, leftRead⟩
      rcases toFloat64_of_widensTo rightOwn rightWidens with ⟨rightNumber, rightRead⟩
      rw [arithmetic, leftRead, rightRead] at failed
      cases failed

theorem transparent_of_widensTo {kind : Kind} {numeric : NumericKind}
    (widens : widensTo kind numeric = true) : kind ≠ .object := by
  rintro rfl
  cases numeric <;> cases widens

theorem isArithmeticError_binary {operation : Arithmetic} {numeric : NumericKind}
    {left right : Value} {leftKind rightKind : Kind} {error : OperatorError}
    (leftFits : left.Fits leftKind) (rightFits : right.Fits rightKind)
    (promoted : leftKind.promote? rightKind = some numeric.kind)
    (failed : binary (.arithmetic operation numeric) left right = .error error) :
    IsArithmeticError operation numeric error := by
  rcases widensTo_of_promote? promoted with ⟨leftWidens, rightWidens⟩
  rw [binary] at failed
  rcases leftFits.cases (transparent_of_widensTo leftWidens) with rfl | leftOwn
  · cases failed
  · rcases rightFits.cases (transparent_of_widensTo rightWidens) with rfl | rightOwn
    · rw [Value.isNull.eq_1, Bool.or_true] at failed
      cases failed
    · split at failed
      · cases failed
      · exact isArithmeticError_arithmetic leftOwn rightOwn leftWidens rightWidens failed

theorem unary_negate_ok {numeric : NumericKind} {value : Value}
    (fits : value.Fits numeric.kind) : ∃ result, unary (.negate numeric) value = .ok result := by
  have transparent : numeric.kind ≠ .object := by cases numeric <;> decide
  rcases fits.cases transparent with rfl | own
  · exact ⟨.null, rfl⟩
  · cases numeric <;> cases value <;> cases own <;> exact ⟨_, rfl⟩

end Operator

end GroupedReport
