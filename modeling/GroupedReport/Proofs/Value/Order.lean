import GroupedReport.Proofs.Decimal.Exactness
import GroupedReport.Proofs.Operator.Order

/-!
# The order of values of one kind

Values of one kind that are not missing are ordered, unless they are opaque: any two of them have
an order, and it is transitive. Doubles are ordered as they are taken apart, decimals as the numbers
that they stand for, and points in time by their parts, the greatest unit first.
-/

namespace GroupedReport

attribute [local instance] lexOrd

/-! ## Doubles -/

namespace Binary64

open Float.Model (UnpackedFloat)

/-- Where a number lies: infinities are outermost, and zero is between the negative numbers and the
positive ones, among which the exponent comes first. -/
def rank : UnpackedFloat → Int × Int × Int
  | .infinity .negative => (-2, 0, 0)
  | .finite .negative significand exponent _ => (-1, -exponent, -significand)
  | .notANumber | .zero _ => (0, 0, 0)
  | .finite .positive significand exponent _ => (1, exponent, significand)
  | .infinity .positive => (2, 0, 0)

theorem compare_neg (left right : Int) : compare (-left) (-right) = compare right left := by
  have less : -left < -right ↔ right < left := by omega
  have equal : -left = -right ↔ right = left := by omega
  simp only [compare, compareOfLessAndEq, less, equal]

theorem compare_natCast (left right : Nat) : compare (left : Int) right = compare left right := by
  simp only [compare, compareOfLessAndEq, Int.ofNat_lt, Int.ofNat_inj]

theorem compare_eq_rank {left right : UnpackedFloat} (leftNumber : sign? left ≠ none)
    (rightNumber : sign? right ≠ none) :
    left.compare right = some (compare (rank left) (rank right)) := by
  have lexicographic (first second : Int × Int × Int) :
      compare first second = (compare first.1 second.1).then
        ((compare first.2.1 second.2.1).then (compare first.2.2 second.2.2)) := rfl
  cases left with
  | notANumber => exact absurd rfl leftNumber
  | infinity leftSign =>
      cases right with
      | notANumber => exact absurd rfl rightNumber
      | infinity rightSign => cases leftSign <;> cases rightSign <;> rfl
      | zero => cases leftSign <;> rfl
      | finite rightSign => cases leftSign <;> cases rightSign <;> rfl
  | zero =>
      cases right with
      | notANumber => exact absurd rfl rightNumber
      | infinity rightSign => cases rightSign <;> rfl
      | zero => rfl
      | finite rightSign => cases rightSign <;> rfl
  | finite leftSign leftSignificand leftExponent =>
      cases right with
      | notANumber => exact absurd rfl rightNumber
      | infinity rightSign => cases leftSign <;> cases rightSign <;> rfl
      | zero => cases leftSign <;> rfl
      | finite rightSign rightSignificand rightExponent =>
          rw [lexicographic]
          cases leftSign <;> cases rightSign <;> simp only [rank]
          · rw [compare_neg leftExponent, compare_neg leftSignificand, compare_natCast,
              UnpackedFloat.compare, Ordering.swap_then, ← Std.OrientedCmp.eq_swap,
              ← Std.OrientedCmp.eq_swap]
            rfl
          · rfl
          · rfl
          · rw [compare_natCast, UnpackedFloat.compare]
            rfl

theorem compare?_eq_rank {left right : Float} (leftNumber : left.isNaN = false)
    (rightNumber : right.isNaN = false) :
    compare? left right = some (compare (rank (unpacked left)) (rank (unpacked right))) := by
  rw [isNaN_eq, Option.isNone_eq_false_iff, Option.isSome_iff_ne_none] at leftNumber rightNumber
  rw [compare?_eq, compare_eq_rank leftNumber rightNumber]

end Binary64

/-! ## Decimals -/

theorem Decimal.compare_eq (left right : Decimal) :
    left.compare right = Ord.compare left.number right.number := by
  have scaled (first second : Decimal) :
      ((first.signed * 10 ^ second.scale : ℤ) : ℚ) =
        first.number * (10 ^ first.scale * 10 ^ second.scale) := by
    rw [number]
    push_cast
    field_simp
  rw [compare, ← cmp_eq_compare, ← cmp_eq_compare,
    ← (Int.cast_strictMono (R := ℚ)).cmp_map_eq, scaled, scaled, mul_comm (10 ^ right.scale)]
  exact cmp_mul_pos_right (by positivity) _ _

instance : Std.TransCmp Decimal.compare := by
  have same : Decimal.compare = compareOn Decimal.number :=
    funext fun left => funext fun right => left.compare_eq right
  rw [same]
  infer_instance

/-! ## Points in time -/

namespace Calendar

instance : Std.TransCmp Date.compare :=
  inferInstanceAs (Std.TransCmp
    (compareLex (compareOn Date.year) (compareLex (compareOn Date.month) (compareOn Date.day))))

end Calendar

instance : Std.TransCmp DateTime.compare :=
  letI : Ord Calendar.Date := ⟨Calendar.Date.compare⟩
  haveI : Std.TransOrd Calendar.Date := inferInstanceAs (Std.TransCmp Calendar.Date.compare)
  inferInstanceAs (Std.TransCmp
    (compareLex (compareOn DateTime.date) (compareLex (compareOn DateTime.hour)
      (compareLex (compareOn DateTime.minute)
        (compareLex (compareOn DateTime.second) (compareOn DateTime.nanosecond))))))

/-! ## Values -/

namespace Value

theorem transCmp_part (order : α → α → Ordering) [Std.TransCmp order] (part : Value → α) :
    Std.TransCmp fun left right => order (part left) (part right) where
  eq_swap := Std.OrientedCmp.eq_swap
  isLE_trans := Std.TransCmp.isLE_trans

def OrderedBy (kind : Kind) (order : Value → Value → Ordering) : Prop :=
  ∀ {left right : Value}, left.kind? = some kind → right.kind? = some kind →
    left.isAbsent = false → right.isAbsent = false →
      left.compare? right = some (order left right)

theorem exists_order_of_parts {kind : Kind} {α : Type} [Nonempty α] {make : α → Value}
    (injective : Function.Injective make)
    (made : ∀ value : Value, value.kind? = some kind → ∃ part, make part = value)
    (order : α → α → Ordering) [Std.TransCmp order]
    (ordered : ∀ left right, (make left).isAbsent = false → (make right).isAbsent = false →
      (make left).compare? (make right) = some (order left right)) :
    ∃ order : Value → Value → Ordering, Std.TransCmp order ∧ OrderedBy kind order := by
  have part_make := Function.leftInverse_invFun injective
  refine ⟨_, transCmp_part order (Function.invFun make), ?_⟩
  intro left right leftOwn rightOwn leftPresent rightPresent
  rcases made left leftOwn with ⟨leftPart, rfl⟩
  rcases made right rightOwn with ⟨rightPart, rfl⟩
  rw [ordered leftPart rightPart leftPresent rightPresent]
  dsimp only
  rw [part_make, part_make]

theorem exists_order {kind : Kind} (transparent : kind ≠ .object) :
    ∃ order : Value → Value → Ordering, Std.TransCmp order ∧ OrderedBy kind order := by
  cases kind with
  | boolean =>
      refine exists_order_of_parts (fun _ _ => boolean.inj) ?_ compare fun _ _ _ _ => rfl
      intro value own
      cases value <;> cases own
      exact ⟨_, rfl⟩
  | int32 =>
      refine exists_order_of_parts (fun _ _ => int32.inj) ?_ (compareOn Int32.toInt)
        fun _ _ _ _ => rfl
      intro value own
      cases value <;> cases own
      exact ⟨_, rfl⟩
  | float64 =>
      refine exists_order_of_parts (fun _ _ => float64.inj) ?_
        (compareOn fun number => Binary64.rank (Binary64.unpacked number))
        fun left right => Binary64.compare?_eq_rank
      intro value own
      cases value <;> cases own
      exact ⟨_, rfl⟩
  | decimal =>
      refine exists_order_of_parts (fun _ _ => decimal.inj) ?_ Decimal.compare fun _ _ _ _ => rfl
      intro value own
      cases value <;> cases own
      exact ⟨_, rfl⟩
  | string =>
      refine exists_order_of_parts (fun _ _ => string.inj) ?_ compare fun _ _ _ _ => rfl
      intro value own
      cases value <;> cases own
      exact ⟨_, rfl⟩
  | dateTime =>
      refine exists_order_of_parts (fun _ _ => dateTime.inj) ?_ DateTime.compare fun _ _ _ _ => rfl
      intro value own
      cases value <;> cases own
      exact ⟨_, rfl⟩
  | object => exact absurd rfl transparent

def IsData (kind : Kind) (value : Value) : Prop :=
  value.kind? = some kind ∧ value.isAbsent = false

theorem Fits.isData {value : Value} {kind : Kind} (fits : value.Fits kind)
    (transparent : kind ≠ .object) (present : value.isAbsent = false) : value.IsData kind := by
  rcases fits.cases transparent with rfl | own
  · cases present
  · exact ⟨own, present⟩

def atMost (left right : Value) : Bool :=
  left.compare? right != some .gt

section

variable {kind : Kind} (transparent : kind ≠ .object) {first second third : Value}
  (firstData : first.IsData kind) (secondData : second.IsData kind)
include transparent firstData secondData

theorem exists_compare? : ∃ order, first.compare? second = some order ∧
    second.compare? first = some order.swap := by
  rcases exists_order transparent with ⟨order, transitive, ordered⟩
  refine ⟨order first second, ordered firstData.1 secondData.1 firstData.2 secondData.2, ?_⟩
  rw [ordered secondData.1 firstData.1 secondData.2 firstData.2]
  exact congrArg some transitive.eq_swap

theorem atMost_trans (thirdData : third.IsData kind) (lower : first.atMost second = true)
    (upper : second.atMost third = true) : first.atMost third = true := by
  rcases exists_order transparent with ⟨order, transitive, ordered⟩
  have atMost_iff {left right : Value} (leftData : left.IsData kind)
      (rightData : right.IsData kind) :
      left.atMost right = true ↔ (order left right).isLE = true := by
    rw [atMost, ordered leftData.1 rightData.1 leftData.2 rightData.2]
    cases order left right <;> decide
  rw [atMost_iff firstData secondData] at lower
  rw [atMost_iff secondData thirdData] at upper
  rw [atMost_iff firstData thirdData]
  exact transitive.isLE_trans lower upper

theorem atMost_of_compare?_ne_lt (notLess : first.compare? second ≠ some .lt) :
    second.atMost first = true := by
  rcases exists_compare? transparent firstData secondData with ⟨order, compared, swapped⟩
  rw [compared] at notLess
  rw [atMost, swapped]
  cases order with
  | lt => exact absurd rfl notLess
  | eq | gt => rfl

theorem atMost_eq_false_of_compare?_eq_lt (less : first.compare? second = some .lt) :
    second.atMost first = false := by
  rcases exists_compare? transparent firstData secondData with ⟨order, compared, swapped⟩
  rw [compared] at less
  cases less
  rw [atMost, swapped]
  rfl

theorem compare?_eq_eq (lower : first.atMost second = true) (upper : second.atMost first = true) :
    first.compare? second = some .eq := by
  rcases exists_compare? transparent firstData secondData with ⟨order, compared, swapped⟩
  rw [atMost, compared] at lower
  rw [atMost, swapped] at upper
  cases order with
  | lt => cases upper
  | eq => exact compared
  | gt => cases lower

end

end Value

/-! ## Least values -/

def LessUnless (same : Prop) (order : Ordering) : Prop :=
  order = .lt ∨ order = .eq ∧ same

theorem lessUnless_compare {α : Type} [LinearOrder α] {least value : α} (bound : least ≤ value) :
    LessUnless (value = least) (compare least value) := by
  rcases bound.lt_or_eq with less | equal
  · exact .inl (compare_lt_iff_lt.mpr less)
  · exact .inr ⟨compare_eq_iff_eq.mpr equal, equal.symm⟩

theorem LessUnless.then {first second : Ordering} {same both : Prop}
    (left : LessUnless same first) (right : LessUnless both second) :
    LessUnless (same ∧ both) (first.then second) := by
  rcases left with rfl | ⟨rfl, isSame⟩
  · exact .inl rfl
  · exact right.imp id fun equal => ⟨equal.1, isSame, equal.2⟩

/-- No other decimal stands for the number of the least one, since a scale leaves no room for its
coefficient. -/
theorem Decimal.lessUnless_least (value : Decimal) :
    LessUnless (value = least) (least.compare value) := by
  rcases value with ⟨negative, coefficient, scale, coefficientLt, scaleLe⟩
  by_cases equal : negative = true ∧ coefficient = 2 ^ 96 - 1 ∧ scale = 0
  · rcases equal with ⟨rfl, rfl, rfl⟩
    exact .inr ⟨rfl, rfl⟩
  · left
    rw [compare, compare_lt_iff_lt]
    change -(2 ^ 96 - 1 : ℤ) * 10 ^ scale < signed _ * 1
    rw [mul_one, signed]
    dsimp only
    rcases Nat.eq_zero_or_pos scale with rfl | positive
    · rw [pow_zero, mul_one]
      cases negative with
      | false =>
          rw [if_neg Bool.false_ne_true]
          omega
      | true =>
          have different : coefficient ≠ 2 ^ 96 - 1 := fun same => equal ⟨rfl, same, rfl⟩
          rw [if_pos rfl]
          omega
    · have power : (10 : ℤ) ^ 1 ≤ 10 ^ scale := pow_le_pow_right₀ (by decide) positive
      have scaled : -(2 ^ 96 - 1 : ℤ) * 10 ^ scale ≤ -(2 ^ 96 - 1 : ℤ) * 10 ^ 1 :=
        mul_le_mul_of_nonpos_left power (by decide)
      split <;> omega

namespace Calendar

theorem Date.lessUnless_first (date : Date) : LessUnless (date = first) (first.compare date) := by
  rcases date with ⟨year, month, day, valid⟩
  have bounds := of_decide_eq_true valid
  have monthBound : 1 ≤ month := by
    rcases month with _ | month
    · have impossible : 1 ≤ 0 := bounds.2.2.1.trans bounds.2.2.2
      cases impossible
    · exact Nat.le_add_left 1 month
  have parts := (lessUnless_compare bounds.1).then
    ((lessUnless_compare monthBound).then (lessUnless_compare bounds.2.2.1))
  refine parts.imp id fun equal => ⟨equal.1, ?_⟩
  rcases equal.2 with ⟨rfl, rfl, rfl⟩
  rfl

end Calendar

theorem DateTime.lessUnless_least (moment : DateTime) :
    LessUnless (moment = least) (least.compare moment) := by
  rcases moment with ⟨date, hour, minute, second, nanosecond⟩
  have parts := date.lessUnless_first.then ((lessUnless_compare hour.zero_le).then
    ((lessUnless_compare minute.zero_le).then
      ((lessUnless_compare second.zero_le).then (lessUnless_compare nanosecond.zero_le))))
  refine parts.imp id fun equal => ⟨equal.1, ?_⟩
  rcases equal.2 with ⟨rfl, rfl, rfl, rfl, rfl⟩
  rfl

/-- Whether the least value of a kind stands for missing data that is converted to the kind. -/
def Kind.hasSentinel : Kind → Bool
  | .int32 | .decimal | .dateTime => true
  | _ => false

theorem Kind.transparent_of_hasSentinel {kind : Kind} (hasSentinel : kind.hasSentinel = true) :
    kind ≠ .object := by
  rintro rfl
  cases hasSentinel

theorem Kind.kind?_sentinel {kind : Kind} (hasSentinel : kind.hasSentinel = true) :
    kind.sentinel.kind? = some kind := by
  cases kind <;> first | rfl | cases hasSentinel

namespace Value

variable {kind : Kind} (hasSentinel : kind.hasSentinel = true) {value : Value}
  (own : value.kind? = some kind)
include hasSentinel own

theorem lessUnless_sentinel : ∃ order, kind.sentinel.compare? value = some order ∧
    LessUnless (value = kind.sentinel) order := by
  cases kind with
  | int32 =>
      cases value <;> cases own
      rename_i number
      refine ⟨_, rfl, (lessUnless_compare number.minValue_le_toInt).imp id fun equal =>
        ⟨equal.1, congrArg Value.int32 (Int32.toInt_inj.mp equal.2)⟩⟩
  | decimal =>
      cases value <;> cases own
      rename_i number
      exact ⟨_, rfl, number.lessUnless_least.imp id fun equal =>
        ⟨equal.1, congrArg Value.decimal equal.2⟩⟩
  | dateTime =>
      cases value <;> cases own
      rename_i moment
      exact ⟨_, rfl, moment.lessUnless_least.imp id fun equal =>
        ⟨equal.1, congrArg Value.dateTime equal.2⟩⟩
  | boolean | float64 | string | object => cases hasSentinel

theorem sentinel_atMost : kind.sentinel.atMost value = true := by
  rcases lessUnless_sentinel hasSentinel own with ⟨order, compared, rfl | ⟨rfl, _⟩⟩ <;>
    · rw [atMost, compared]
      rfl

theorem isData_of_hasSentinel : value.IsData kind := by
  refine ⟨own, ?_⟩
  cases value with
  | null => cases own
  | float64 =>
      cases own
      cases hasSentinel
  | _ => rfl

theorem eq_sentinel_of_atMost (bound : value.atMost kind.sentinel = true) :
    value = kind.sentinel := by
  have sentinelData := isData_of_hasSentinel hasSentinel (Kind.kind?_sentinel hasSentinel)
  rcases exists_compare? (Kind.transparent_of_hasSentinel hasSentinel) sentinelData
    (isData_of_hasSentinel hasSentinel own) with ⟨order, compared, swapped⟩
  rcases lessUnless_sentinel hasSentinel own with ⟨_, same, rfl | ⟨_, equal⟩⟩
  · rw [same] at compared
    cases compared
    rw [atMost, swapped] at bound
    cases bound
  · exact equal

end Value

end GroupedReport
