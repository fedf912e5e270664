import GroupedReport.Proofs.Decimal.Identity
import Mathlib

/-!
# How exact decimal arithmetic is

A sum, a difference or a product that is a decimal is given exactly. What needs more places or more
digits than a decimal has is rounded, and an operation fails only if the number in front of the
point is too large.
-/

namespace GroupedReport

-- Powers are those of the core library, whatever else is imported.
attribute [local instance (high)] instPowNat

theorem Rounding.le_nearest_iff {bound : Nat} (even : bound % 2 = 0) (numerator : Nat)
    {denominator : Nat} (positive : 0 < denominator) :
    bound ≤ nearest .toEven numerator denominator ↔
      2 * bound * denominator ≤ 2 * numerator + denominator := by
  have halves : (2 * numerator + denominator) / denominator =
      2 * (numerator / denominator) + 2 * (numerator % denominator) / denominator + 1 := by
    rw [Nat.add_div_right _ positive]
    conv_lhs => rw [← Nat.div_add_mod numerator denominator]
    rw [Nat.mul_add, Nat.mul_left_comm, Nat.mul_add_div positive]
  have remainder := Nat.mod_lt numerator positive
  rw [← Nat.le_div_iff_mul_le positive, halves, nearest]
  split
  · rename_i below
    rw [Nat.div_eq_of_lt below]
    omega
  · rename_i notBelow
    have half : 2 * (numerator % denominator) / denominator = 1 :=
      Nat.div_eq_of_lt_le (by omega) (by omega)
    rw [half]
    split
    · omega
    · omega

namespace Decimal

/-! ## Dropping digits -/

/-- Whether `magnitude / 10 ^ scale` is rounded to 2^96 or above it. -/
def IsTooLarge (magnitude scale : Nat) : Prop :=
  2 * 2 ^ (96 : Nat) * 10 ^ scale ≤ 2 * magnitude + 10 ^ scale

/-- Whether a decimal is `magnitude / 10 ^ scale` rounded to its places, which are all the places
that the number has or that there is room for. -/
structure Fitted (magnitude scale : Nat) (result : Decimal) (dropped : Nat) : Prop where
  scale_eq : scale = result.scale + dropped
  coefficient_eq : result.coefficient = Rounding.nearest .toEven magnitude (10 ^ dropped)
  full : dropped = 0 ∨ result.scale = 28 ∨ IsTooLarge (magnitude * 10) dropped

section

variable {negative : Bool} {magnitude scale dropped : Nat}

theorem power_pos (exponent : Nat) : 0 < 10 ^ exponent :=
  Nat.pow_pos (by decide)

theorem IsTooLarge.fewer {more : Nat} (atMost : dropped ≤ more)
    (large : IsTooLarge magnitude more) : IsTooLarge magnitude dropped := by
  have powers : 10 ^ dropped ≤ 10 ^ more := Nat.pow_le_pow_right (by decide) atMost
  rw [IsTooLarge] at large ⊢
  omega

theorem IsTooLarge.mul_ten (large : IsTooLarge magnitude dropped) :
    IsTooLarge (magnitude * 10) (dropped + 1) := by
  rw [IsTooLarge] at large ⊢
  rw [Nat.pow_succ]
  omega

theorem isTooLarge_of_lt_surplus (less : dropped < surplus magnitude) :
    IsTooLarge magnitude dropped := by
  have atLeast := Nat.not_lt.mp fun small => Nat.not_lt.mpr (surplus_le_iff.mpr small) less
  have product := (Nat.le_div_iff_mul_le (power_pos dropped)).mp atLeast
  rw [IsTooLarge]
  omega

theorem not_isTooLarge_of_surplus_le (atMost : surplus magnitude ≤ dropped) :
    ¬IsTooLarge magnitude (dropped + 1) := by
  have product := (Nat.div_lt_iff_lt_mul (power_pos dropped)).mp (surplus_le_iff.mp atMost)
  rw [IsTooLarge, Nat.pow_succ]
  omega

theorem dropDigits?_of_scale_lt (tooMany : scale < dropped) :
    dropDigits? negative magnitude scale dropped = none := by
  rw [dropDigits?]
  exact dif_neg fun bounds => Nat.not_le.mpr tooMany bounds.2.1

theorem dropDigits?_cases (negative : Bool) (magnitude : Nat) (enough : dropped ≤ scale)
    (places : scale - dropped ≤ 28) :
    IsTooLarge magnitude dropped ∧ dropDigits? negative magnitude scale dropped = none ∨
      ¬IsTooLarge magnitude dropped ∧ ∃ result,
        dropDigits? negative magnitude scale dropped = some result ∧
        result.negative = negative ∧ scale = result.scale + dropped ∧
        result.coefficient = Rounding.nearest .toEven magnitude (10 ^ dropped) := by
  have large : 2 ^ (96 : Nat) ≤ Rounding.nearest .toEven magnitude (10 ^ dropped) ↔
      IsTooLarge magnitude dropped :=
    Rounding.le_nearest_iff (by decide) magnitude (power_pos dropped)
  rw [← large, Nat.not_le, dropDigits?]
  by_cases small : Rounding.nearest .toEven magnitude (10 ^ dropped) < 2 ^ (96 : Nat)
  · exact .inr ⟨small, _, dif_pos ⟨small, enough, places⟩, rfl, (Nat.sub_add_cancel enough).symm,
      rfl⟩
  · exact .inl ⟨Nat.not_lt.mp small, dif_neg fun bounds => small bounds.1⟩

theorem fit?_cases (negative : Bool) (magnitude scale : Nat) :
    IsTooLarge magnitude scale ∧ fit? negative magnitude scale = none ∨
      ¬IsTooLarge magnitude scale ∧ ∃ result dropped,
        fit? negative magnitude scale = some result ∧ result.negative = negative ∧
        Fitted magnitude scale result dropped := by
  rw [fit?]
  generalize least : max (surplus magnitude) (scale - 28) = dropped
  by_cases tooMany : scale < dropped
  · have large : IsTooLarge magnitude scale := isTooLarge_of_lt_surplus (by omega)
    rw [dropDigits?_of_scale_lt tooMany, dropDigits?_of_scale_lt (Nat.lt_succ_of_lt tooMany)]
    exact .inl ⟨large, rfl⟩
  · have enough := Nat.not_lt.mp tooMany
    have surplusLe : surplus magnitude ≤ dropped := by omega
    rcases dropDigits?_cases negative magnitude enough (by omega) with
      ⟨large, none⟩ | ⟨notLarge, result, found, sign, scaleEq, coefficient⟩
    · rw [none]
      rcases Nat.lt_or_eq_of_le enough with less | rfl
      · -- Rounding has carried into one digit more, which is dropped as well.
        have notLarge := not_isTooLarge_of_surplus_le surplusLe
        rcases dropDigits?_cases negative magnitude less (by omega) with
          ⟨impossible, _⟩ | ⟨_, result, found, sign, scaleEq, coefficient⟩
        · exact absurd impossible notLarge
        · rw [found]
          exact .inr ⟨fun all => notLarge (all.fewer less), result, dropped + 1, rfl, sign,
            scaleEq, coefficient, .inr (.inr large.mul_ten)⟩
      · rw [dropDigits?_of_scale_lt (Nat.lt_succ_self _)]
        exact .inl ⟨large, rfl⟩
    · rw [found]
      refine .inr ⟨fun all => notLarge (all.fewer enough), result, dropped, rfl, sign, scaleEq,
        coefficient, ?_⟩
      rcases Nat.eq_zero_or_pos dropped with zero | positive
      · exact .inl zero
      · by_cases places : scale - 28 = dropped
        · exact .inr (.inl (by omega))
        · obtain ⟨fewer, rfl⟩ : ∃ fewer, dropped = fewer + 1 := ⟨dropped - 1, by omega⟩
          exact .inr (.inr (isTooLarge_of_lt_surplus (by omega)).mul_ten)

end

/-! ## Numbers -/

def number (value : Decimal) : ℚ :=
  value.signed / 10 ^ value.scale

/-- The least magnitude that is rounded to 2^96. -/
def limit : ℚ := 2 ^ 96 - 1 / 2

def withSign (negative : Bool) (magnitude : ℚ) : ℚ :=
  if negative then -magnitude else magnitude

/-- Whether a decimal is a number as nearly as it is written: at most half a unit off in the last
of 28 places, or in its own last place if the number is too large for one place more. -/
def Approximates (result : Decimal) (exact : ℚ) : Prop :=
  2 * |result.number - exact| ≤ 1 / 10 ^ 28 ∨
    2 * |result.number - exact| ≤ 1 / 10 ^ result.scale ∧
      limit ≤ |exact| * 10 ^ (result.scale + 1)

/-- What an operation gives for a number: an approximation, unless the number is too large. -/
def Settles (exact : ℚ) : Option Decimal → Prop
  | some result => |exact| < limit ∧ result.Approximates exact
  | none => limit ≤ |exact|

theorem number_eq_withSign (value : Decimal) :
    value.number = withSign value.negative (value.coefficient / 10 ^ value.scale) := by
  rw [number, signed, withSign]
  split
  · rw [Int.cast_neg, Int.cast_natCast, neg_div]
  · rw [Int.cast_natCast]

theorem abs_withSign (negative : Bool) (magnitude : ℚ) :
    |withSign negative magnitude| = |magnitude| := by
  cases negative with
  | true => exact abs_neg magnitude
  | false => rfl

theorem withSign_sub (negative : Bool) (first second : ℚ) :
    withSign negative first - withSign negative second = withSign negative (first - second) := by
  cases negative with
  | true => exact (neg_sub' first second).symm
  | false => rfl

theorem abs_number (value : Decimal) : |value.number| = value.coefficient / 10 ^ value.scale := by
  rw [number_eq_withSign, abs_withSign, abs_of_nonneg (by positivity)]

theorem isTooLarge_iff {magnitude scale : Nat} :
    IsTooLarge magnitude scale ↔ limit ≤ (magnitude : ℚ) / 10 ^ scale := by
  rw [le_div_iff₀ (by positivity), IsTooLarge, limit, ← @Nat.cast_le ℚ]
  push_cast
  constructor
  · intro large
    linarith
  · intro large
    linarith

/-! ## What is exact -/

theorem number_eq_div_of_le (value : Decimal) {places : Nat} (enough : value.scale ≤ places) :
    value.number = (value.signed * 10 ^ (places - value.scale) : ℤ) / 10 ^ places := by
  obtain ⟨more, rfl⟩ := Nat.exists_eq_add_of_le enough
  rw [number, pow_add, Nat.add_sub_cancel_left]
  push_cast
  field_simp

theorem number_eq_of_abs_sub_le {first second : Decimal} {places : Nat}
    (firstPlaces : first.scale ≤ places) (secondPlaces : second.scale ≤ places)
    (near : 2 * |first.number - second.number| ≤ 1 / 10 ^ places) :
    first.number = second.number := by
  have firstEqual := first.number_eq_div_of_le firstPlaces
  have secondEqual := second.number_eq_div_of_le secondPlaces
  generalize first.signed * 10 ^ (places - first.scale) = firstUnits at firstEqual
  generalize second.signed * 10 ^ (places - second.scale) = secondUnits at secondEqual
  have unit : (0 : ℚ) < 10 ^ places := by positivity
  rw [firstEqual, secondEqual, ← sub_div, abs_div, abs_of_pos unit, ← mul_div_assoc,
    div_le_div_iff_of_pos_right unit] at near
  have apart : 2 * |firstUnits - secondUnits| ≤ 1 := by exact_mod_cast near
  have same : firstUnits = secondUnits := by
    have := abs_nonneg (firstUnits - secondUnits)
    have none : |firstUnits - secondUnits| = 0 := by omega
    exact sub_eq_zero.mp (abs_eq_zero.mp none)
  rw [firstEqual, secondEqual, same]

theorem abs_number_mul_lt (value : Decimal) {places : Nat} (atMost : places ≤ value.scale) :
    |value.number| * 10 ^ places < limit := by
  have coefficient : (value.coefficient : ℚ) ≤ 2 ^ 96 - 1 := by
    have small : value.coefficient + 1 ≤ 2 ^ (96 : Nat) := value.coefficient_lt
    have cast : ((value.coefficient + 1 : Nat) : ℚ) ≤ ((2 ^ (96 : Nat) : Nat) : ℚ) :=
      Nat.cast_le.mpr small
    push_cast at cast
    linarith
  have power : (10 : ℚ) ^ places ≤ 10 ^ value.scale := pow_le_pow_right₀ (by norm_num) atMost
  calc |value.number| * 10 ^ places
      ≤ |value.number| * 10 ^ value.scale := mul_le_mul_of_nonneg_left power (abs_nonneg _)
    _ = value.coefficient := by
        rw [abs_number, div_mul_cancel₀ _ (by positivity)]
    _ ≤ 2 ^ 96 - 1 := coefficient
    _ < limit := by
        rw [limit]
        linarith

theorem Approximates.number_eq {result exact : Decimal} (near : result.Approximates exact.number) :
    result.number = exact.number := by
  rcases near with near | ⟨near, large⟩
  · exact number_eq_of_abs_sub_le result.scale_le exact.scale_le near
  · rcases Nat.lt_or_ge result.scale exact.scale with more | atMost
    · exact absurd large (not_le.mpr (exact.abs_number_mul_lt more))
    · exact number_eq_of_abs_sub_le le_rfl atMost near

theorem settles_some_of_number_eq {result : Decimal} {exact : ℚ} (equal : result.number = exact) :
    Settles exact (some result) := by
  have small := result.abs_number_mul_lt (Nat.zero_le _)
  rw [pow_zero, mul_one, equal] at small
  refine ⟨small, .inl ?_⟩
  rw [equal, sub_self, abs_zero, mul_zero]
  positivity

/-! ## Sums and products -/

theorem Fitted.approximates {magnitude scale dropped : Nat} {result : Decimal}
    (fitted : Fitted magnitude scale result dropped) :
    result.Approximates (withSign result.negative (magnitude / 10 ^ scale)) := by
  have rounded : 2 * |(result.coefficient : ℚ) * 10 ^ dropped - magnitude| ≤ 10 ^ dropped := by
    have above := Rounding.twice_nearest_le .toEven magnitude (10 ^ dropped)
    have below := Rounding.le_twice_nearest .toEven magnitude (power_pos dropped)
    rw [← fitted.coefficient_eq, ← @Nat.cast_le ℚ] at above below
    push_cast at above below
    rw [← abs_of_pos (two_pos : (0 : ℚ) < 2), ← abs_mul, abs_le]
    constructor
    · linarith
    · linarith
  have error : result.number - withSign result.negative (magnitude / 10 ^ scale) =
      withSign result.negative
        ((result.coefficient * 10 ^ dropped - magnitude) / 10 ^ (result.scale + dropped)) := by
    rw [number_eq_withSign, withSign_sub, fitted.scale_eq, sub_div, pow_add, mul_div_mul_right]
    positivity
  have near : 2 * |result.number - withSign result.negative (magnitude / 10 ^ scale)| ≤
      1 / 10 ^ result.scale := by
    have unit : (0 : ℚ) < 10 ^ (result.scale + dropped) := by positivity
    rw [error, abs_withSign, abs_div, abs_of_pos unit, ← mul_div_assoc,
      div_le_div_iff₀ unit (by positivity), one_mul, pow_add, mul_comm (10 ^ result.scale)]
    exact mul_le_mul_of_nonneg_right rounded (by positivity)
  rcases fitted.full with rfl | full | large
  · have whole := Rounding.nearest_mul .toEven magnitude (power_pos 0)
    rw [Nat.pow_zero, Nat.mul_one, ← Nat.pow_zero 10, ← fitted.coefficient_eq] at whole
    left
    rw [error, whole, pow_zero, mul_one, sub_self, zero_div, abs_withSign, abs_zero, mul_zero]
    positivity
  · rw [full] at near
    exact .inl near
  · right
    refine ⟨near, ?_⟩
    rw [isTooLarge_iff] at large
    rw [abs_withSign, abs_of_nonneg (by positivity), fitted.scale_eq]
    refine large.trans_eq ?_
    push_cast
    rw [pow_succ, pow_add]
    field_simp

theorem settles_fit? (negative : Bool) (magnitude scale : Nat) :
    Settles (withSign negative (magnitude / 10 ^ scale)) (fit? negative magnitude scale) := by
  have size : |withSign negative ((magnitude : ℚ) / 10 ^ scale)| = magnitude / 10 ^ scale := by
    rw [abs_withSign, abs_of_nonneg (by positivity)]
  rcases fit?_cases negative magnitude scale with
    ⟨large, none⟩ | ⟨notLarge, result, dropped, fits, rfl, fitted⟩
  · rw [none, Settles, size, ← isTooLarge_iff]
    exact large
  · rw [fits, Settles, size, ← not_le, ← isTooLarge_iff]
    exact ⟨notLarge, fitted.approximates⟩

theorem withSign_natAbs (integer : ℤ) (divisor : ℚ) :
    withSign (decide (integer < 0)) (integer.natAbs / divisor) = integer / divisor := by
  rw [withSign, Nat.cast_natAbs, Int.cast_abs]
  split
  · rename_i below
    have negative : (integer : ℚ) < 0 := Int.cast_lt_zero.mpr (of_decide_eq_true below)
    rw [abs_of_neg negative, neg_div, neg_neg]
  · rename_i notBelow
    have nonneg : (0 : ℚ) ≤ integer :=
      Int.cast_nonneg_iff.mpr (Int.not_lt.mp fun below => notBelow (decide_eq_true below))
    rw [abs_of_nonneg nonneg]

theorem settles_exactSum? (left right : Decimal) :
    Settles (left.number + right.number) (exactSum? left right) := by
  have settles := settles_fit?
    (decide (left.signed * 10 ^ (max left.scale right.scale - left.scale) +
      right.signed * 10 ^ (max left.scale right.scale - right.scale) < 0))
    (left.signed * 10 ^ (max left.scale right.scale - left.scale) +
      right.signed * 10 ^ (max left.scale right.scale - right.scale)).natAbs
    (max left.scale right.scale)
  rw [withSign_natAbs, Int.cast_add, add_div, ← number_eq_div_of_le left (le_max_left _ _),
    ← number_eq_div_of_le right (le_max_right _ _)] at settles
  exact settles

theorem number_of_isZero {value : Decimal} (zero : value.isZero = true) : value.number = 0 := by
  rw [number_eq_withSign, eq_of_beq zero]
  cases value.negative with
  | true => simp [withSign]
  | false => simp [withSign]

theorem number_negate (value : Decimal) : value.negate.number = -value.number := by
  rw [number_eq_withSign, number_eq_withSign, negate]
  cases value.negative with
  | true => exact (neg_neg _).symm
  | false => rfl

theorem settles_add? (left right : Decimal) :
    Settles (left.number + right.number) (left.add? right) := by
  rw [add?]
  split
  · rename_i leftZero
    apply settles_some_of_number_eq
    rw [number_of_isZero leftZero, zero_add]
  · split
    · rename_i rightZero
      apply settles_some_of_number_eq
      rw [number_of_isZero rightZero, add_zero]
    · exact settles_exactSum? left right

theorem settles_subtract? (left right : Decimal) :
    Settles (left.number - right.number) (left.subtract? right) := by
  rw [subtract?]
  split
  · rename_i leftZero
    apply settles_some_of_number_eq
    rw [number_of_isZero leftZero, zero_sub]
    split
    · rename_i rightZero
      rw [number_of_isZero rightZero, neg_zero]
    · exact number_negate right
  · split
    · rename_i rightZero
      apply settles_some_of_number_eq
      rw [number_of_isZero rightZero, sub_zero]
    · have settles := settles_exactSum? left right.negate
      rw [number_negate, ← sub_eq_add_neg] at settles
      exact settles

theorem number_mul (left right : Decimal) :
    left.number * right.number =
      withSign (left.negative != right.negative)
        ((left.coefficient * right.coefficient : Nat) / 10 ^ (left.scale + right.scale)) := by
  have magnitudes : (left.coefficient / 10 ^ left.scale : ℚ) *
      (right.coefficient / 10 ^ right.scale) =
        (left.coefficient * right.coefficient : Nat) / 10 ^ (left.scale + right.scale) := by
    rw [div_mul_div_comm, pow_add, Nat.cast_mul]
  rw [← magnitudes, number_eq_withSign, number_eq_withSign]
  cases left.negative <;> cases right.negative <;> simp [withSign]

theorem settles_zero_of_isShort {left right : Decimal} (leftShort : left.isShort = true)
    (rightShort : right.isShort = true) (many : 47 < left.scale + right.scale) :
    Settles (left.number * right.number) (some zero) := by
  have leftLt : left.coefficient < 2 ^ (32 : Nat) := of_decide_eq_true leftShort
  have rightLt : right.coefficient < 2 ^ (32 : Nat) := of_decide_eq_true rightShort
  have product : left.coefficient * right.coefficient < 2 ^ (64 : Nat) :=
    (Nat.mul_lt_mul'' leftLt rightLt).trans_eq (by decide)
  have small : |left.number * right.number| ≤ 2 ^ 64 / 10 ^ 48 := by
    rw [number_mul, abs_withSign, abs_of_nonneg (by positivity)]
    apply div_le_div₀ (by positivity)
    · exact_mod_cast product.le
    · positivity
    · exact pow_le_pow_right₀ (by norm_num) many
  refine ⟨?_, .inl ?_⟩
  · refine small.trans_lt ?_
    rw [limit]
    norm_num
  · rw [number_of_isZero rfl, zero_sub, abs_neg]
    linarith

theorem settles_multiply? (left right : Decimal) :
    Settles (left.number * right.number) (left.multiply? right) := by
  rw [multiply?]
  dsimp only
  split
  · rename_i anyZero
    apply settles_some_of_number_eq
    rw [number_of_isZero rfl]
    rcases Bool.or_eq_true_iff.mp anyZero with leftZero | rightZero
    · rw [number_of_isZero leftZero, zero_mul]
    · rw [number_of_isZero rightZero, mul_zero]
  · split
    · rename_i tiny
      rcases Bool.and_eq_true_iff.mp tiny.1 with ⟨leftShort, rightShort⟩
      exact settles_zero_of_isShort leftShort rightShort tiny.2
    · have settles := settles_fit? (left.negative != right.negative)
        (left.coefficient * right.coefficient) (left.scale + right.scale)
      rw [← number_mul] at settles
      cases fits : fit? (left.negative != right.negative)
          (left.coefficient * right.coefficient) (left.scale + right.scale) with
      | none =>
          rw [fits] at settles
          exact settles
      | some product =>
          rw [fits] at settles
          rw [Option.map_some]
          split
          · -- A zero without its sign is the same number with the same places.
            rename_i unsigned
            have zero := (Bool.and_eq_true_iff.mp unsigned).2
            have unsignedZero : isZero { product with negative := false } = true := zero
            have same : number { product with negative := false } = product.number := by
              rw [number_of_isZero zero, number_of_isZero unsignedZero]
            rw [Settles, Approximates, same]
            exact settles
          · exact settles

end Decimal

def Arithmetic.rational : Arithmetic → ℚ → ℚ → ℚ
  | plus, left, right => left + right
  | minus, left, right => left - right
  | multiply, left, right => left * right
  | divide, left, right => left / right

open Decimal in
theorem Operator.decimal_settles {operation : Arithmetic} (notDivide : operation ≠ .divide)
    (left right : Decimal) :
    ∃ result?, Settles (operation.rational left.number right.number) result? ∧
      decimal operation left right = result?.elim (.error (.overflow operation)) .ok := by
  cases operation with
  | plus =>
      refine ⟨_, settles_add? left right, ?_⟩
      rw [decimal]
      cases left.add? right <;> rfl
  | minus =>
      refine ⟨_, settles_subtract? left right, ?_⟩
      rw [decimal]
      cases left.subtract? right <;> rfl
  | multiply =>
      refine ⟨_, settles_multiply? left right, ?_⟩
      rw [decimal]
      cases left.multiply? right <;> rfl
  | divide => exact absurd rfl notDivide

open Decimal in
/-- A sum, a difference or a product that is a decimal is given exactly, and every other one as
nearly as it is written. The only failure is that the number is too large. -/
theorem decimal_arithmetic_is_nearly_exact {operation : Arithmetic}
    (notDivide : operation ≠ .divide) (left right : Decimal) :
    let exact := operation.rational left.number right.number
    (∀ other : Decimal, other.number = exact →
      ∃ result, Operator.decimal operation left right = .ok result ∧ result.number = exact) ∧
    (∀ result, Operator.decimal operation left right = .ok result →
      |exact| < limit ∧ result.Approximates exact) ∧
    ∀ error, Operator.decimal operation left right = .error error ↔
      error = .overflow operation ∧ limit ≤ |exact| := by
  intro exact
  rcases Operator.decimal_settles notDivide left right with ⟨result?, settles, computed⟩
  rw [computed]
  cases result? with
  | none =>
      refine ⟨?_, nofun, ?_⟩
      · intro other equal
        have small := other.abs_number_mul_lt (Nat.zero_le _)
        rw [pow_zero, mul_one, equal] at small
        exact absurd settles (not_le.mpr small)
      · intro error
        constructor
        · rintro ⟨⟩
          exact ⟨rfl, settles⟩
        · rintro ⟨rfl, _⟩
          rfl
  | some result =>
      rcases settles with ⟨small, near⟩
      refine ⟨?_, ?_, ?_⟩
      · intro other equal
        have near : result.Approximates other.number := equal ▸ near
        exact ⟨result, rfl, near.number_eq.trans equal⟩
      · rintro _ ⟨⟩
        exact ⟨small, near⟩
      · intro error
        constructor
        · nofun
        · rintro ⟨_, large⟩
          exact absurd large (not_le.mpr small)

/-- A tenth and two tenths are three tenths, a tenth of the smallest step is given to half of that
step, and ten times the greatest decimal is too large. -/
theorem tenths_add_exactly :
    let tenth : Decimal := ⟨false, 1, 1, by decide, by decide⟩
    let twoTenths : Decimal := ⟨false, 2, 1, by decide, by decide⟩
    let smallest : Decimal := ⟨false, 1, 28, by decide, by decide⟩
    let greatest : Decimal := ⟨false, 2 ^ (96 : Nat) - 1, 0, by decide, by decide⟩
    let ten : Decimal := ⟨false, 10, 0, by decide, by decide⟩
    (∃ result, Operator.decimal .plus tenth twoTenths = .ok result ∧ result.number = 3 / 10) ∧
      (∃ result, Operator.decimal .multiply smallest tenth = .ok result ∧
        result.Approximates (1 / 10 ^ 29)) ∧
      Operator.decimal .multiply greatest ten = .error (.overflow .multiply) := by
  intro tenth twoTenths smallest greatest ten
  let threeTenths : Decimal := ⟨false, 3, 1, by decide, by decide⟩
  have notDivide : Arithmetic.plus ≠ .divide ∧ Arithmetic.multiply ≠ .divide := ⟨nofun, nofun⟩
  refine ⟨?_, ?_, ?_⟩
  · have sum : threeTenths.number = tenth.number + twoTenths.number := by
      norm_num [threeTenths, tenth, twoTenths, Decimal.number, Decimal.signed]
    rcases (decimal_arithmetic_is_nearly_exact notDivide.1 tenth twoTenths).1 threeTenths sum with
      ⟨result, computed, equal⟩
    refine ⟨result, computed, equal.trans (sum.symm.trans ?_)⟩
    norm_num [threeTenths, Decimal.number, Decimal.signed]
  · have product : smallest.number * tenth.number = 1 / 10 ^ 29 := by
      norm_num [smallest, tenth, Decimal.number, Decimal.signed]
    have computed : Operator.decimal .multiply smallest tenth =
        .ok ⟨false, 0, 28, by decide, by decide⟩ := by cbv
    have near := ((decimal_arithmetic_is_nearly_exact notDivide.2 smallest tenth).2.1 _ computed).2
    rw [Arithmetic.rational, product] at near
    exact ⟨_, computed, near⟩
  · refine ((decimal_arithmetic_is_nearly_exact notDivide.2 greatest ten).2.2 _).mpr ⟨rfl, ?_⟩
    norm_num [Arithmetic.rational, Decimal.limit, greatest, ten, Decimal.number, Decimal.signed]

/-- A tenth of the smallest step is rounded to zero, which it is not. -/
theorem tenth_of_smallest_step_is_lost :
    let smallest : Decimal := ⟨false, 1, 28, by decide, by decide⟩
    let tenth : Decimal := ⟨false, 1, 1, by decide, by decide⟩
    ∃ result, Operator.decimal .multiply smallest tenth = .ok result ∧
      result.number ≠ smallest.number * tenth.number := by
  intro smallest tenth
  let lost : Decimal := ⟨false, 0, 28, by decide, by decide⟩
  have computed : Operator.decimal .multiply smallest tenth = .ok lost := by cbv
  refine ⟨lost, computed, ?_⟩
  norm_num [lost, smallest, tenth, Decimal.number, Decimal.signed]

end GroupedReport
