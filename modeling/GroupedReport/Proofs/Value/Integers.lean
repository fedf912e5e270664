import GroupedReport.Proofs.Binary64.Order
import GroupedReport.Proofs.Binary64.Whole
import GroupedReport.Proofs.Decimal.Exactness
import GroupedReport.Proofs.Value.Json

/-!
# Whole numbers in JSON

A whole number of JSON has 64 bits, with or without a sign. On its way to a kind it is one of 32
bits, a decimal or a double, whichever of them comes first that is wide enough. Doubles are not:
beyond 63 bits a whole number loses the last of its digits on the way to a decimal. Its text, its
truth and whether it fits in 32 bits do not depend on them.
-/

namespace GroupedReport

-- Powers are those of the core library, whatever else is imported.
attribute [local instance (high)] instPowNat

/-! ## Digits -/

theorem Text.Digits.write_of_leading_zero {number : Nat}
    (leading : (write number).head? = some '0') : write number = ['0'] := by
  have isZero : number = 0 := by
    fun_induction write number with
    | case1 number small =>
        have same := congrArg digitValue (Option.some.inj leading)
        rw [digitValue_digit small] at same
        exact same
    | case2 number large induction =>
        rw [List.head?_append_of_ne_nil _ (write_ne_nil _)] at leading
        have := induction leading
        omega
  rw [isZero, write]
  rfl

/-! ## Decimals without a fraction -/

namespace Decimal

theorem signed_ofInteger (integer : Int) :
    (if decide (integer < 0) = true then -(integer.natAbs : Int) else integer.natAbs) =
      integer := by
  simp only [decide_eq_true_eq]
  omega

theorem signed_ofInt32 (word : Int32) : (ofInt32 word).signed = word.toInt :=
  signed_ofInteger word.toInt

variable {value : Decimal} (whole : value.scale = 0)
include whole

theorem number_eq_signed : value.number = value.signed := by
  rw [number, whole, pow_zero, div_one]

theorem toInt_eq_signed : value.toInt = value.signed := by
  have alone := Rounding.nearest_mul .toEven value.coefficient Nat.one_pos
  rw [Nat.mul_one] at alone
  rw [toInt, whole, Nat.pow_zero, alone]
  rfl

end Decimal

/-! ## The way to a kind -/

namespace Coercion

variable {number : Int}

def IsSmall (number : Int) : Prop :=
  -2 ^ (31 : Nat) ≤ number ∧ number < 2 ^ (31 : Nat)

theorem isSmall_toInt (small : Int32) : IsSmall small.toInt :=
  ⟨small.le_toInt, small.toInt_lt⟩

theorem int32OfInt?_of_isSmall (small : IsSmall number) :
    ∃ word : Int32, int32OfInt? number = some word ∧ word.toInt = number := by
  rcases small with ⟨least, greatest⟩
  have exact : (Int32.ofInt number).toInt = number := Int32.toInt_ofInt_of_le least greatest
  have found := int32OfInt?_toInt (Int32.ofInt number)
  rw [exact] at found
  exact ⟨Int32.ofInt number, found, exact⟩

theorem int32OfInt?_of_not_isSmall (large : ¬IsSmall number) : int32OfInt? number = none := by
  apply if_neg
  intro fits
  exact large ⟨fits.1, Int.lt_add_one_of_le fits.2⟩

/-- What stands for a whole number of JSON on its way to a kind. -/
inductive StandsFor (number : Int) : Value → Prop
  | small {word : Int32} : word.toInt = number → StandsFor number (.int32 word)
  | middle {value : Decimal} : ¬IsSmall number → number < 2 ^ (63 : Nat) → value.scale = 0 →
      value.signed = number → StandsFor number (.decimal value)
  | large : 2 ^ (63 : Nat) ≤ number → StandsFor number (.float64 (Binary64.ofInt number))

theorem ofScalar_integer (target : Kind) (least : -2 ^ (63 : Nat) ≤ number) :
    ∃ value, ofScalar target (.integer number) = .ok value ∧ StandsFor number value := by
  rw [ofScalar]
  by_cases small : IsSmall number
  · rcases int32OfInt?_of_isSmall small with ⟨word, found, same⟩
    rw [found]
    exact ⟨_, rfl, .small same⟩
  · rw [int32OfInt?_of_not_isSmall small]
    dsimp only
    by_cases bound : number < 2 ^ (63 : Nat)
    · rw [dif_pos ⟨least, bound⟩]
      exact ⟨_, rfl, .middle small bound rfl (Decimal.signed_ofInteger number)⟩
    · rw [dif_neg fun bounds => bound bounds.2]
      exact ⟨_, rfl, .large (Int.not_lt.mp bound)⟩

end Coercion

/-! ## Large doubles -/

/-- Whether a whole number is the multiple of a unit that is nearest to another number, the even
multiple where two of them are. -/
structure IsNearestMultiple (unit : Nat) (number nearest : Int) : Prop where
  divides : (unit : Int) ∣ nearest
  near : 2 * |nearest - number| ≤ unit
  even : 2 * |nearest - number| = unit → 2 * (unit : Int) ∣ nearest

section

variable {unit : Nat} {number nearest : Int} (multiple : IsNearestMultiple unit number nearest)
include multiple

theorem IsNearestMultiple.within : number - unit ≤ nearest ∧ nearest ≤ number + unit := by
  have near := multiple.near
  have below := neg_abs_le (nearest - number)
  have above := le_abs_self (nearest - number)
  omega

theorem IsNearestMultiple.eq_iff (positive : 0 < unit) :
    nearest = number ↔ (unit : Int) ∣ number := by
  constructor
  · rintro rfl
    exact multiple.divides
  · intro divides
    have close : |nearest - number| < unit := by
      have near := multiple.near
      have notNegative := abs_nonneg (nearest - number)
      omega
    exact Int.sub_eq_zero.mp
      (Int.eq_zero_of_abs_lt_dvd (Int.dvd_sub multiple.divides divides) close)

end

theorem isNearestMultiple_nearest (number : Nat) {unit : Nat} (positive : 0 < unit) :
    IsNearestMultiple unit number
      ((Rounding.nearest .toEven number unit * unit : Nat) : Int) := by
  have division := Nat.div_add_mod number unit
  have remainder := Nat.mod_lt number positive
  have tie (half : 2 * (number % unit) = unit) :
      Rounding.nearest .toEven number unit % 2 = 0 := by
    rw [Rounding.nearest, if_neg (by omega), if_neg (by omega)]
    omega
  -- What is rounded off is the remainder, or what the remainder lacks to a whole unit.
  have distance :
      2 * |((Rounding.nearest .toEven number unit * unit : Nat) : Int) - number| ≤ unit ∧
      (2 * |((Rounding.nearest .toEven number unit * unit : Nat) : Int) - number| = unit →
        2 * (number % unit) = unit) := by
    rw [Nat.mul_comm] at division
    rcases Rounding.nearest_cases .toEven number unit with ⟨down, few⟩ | ⟨up, many⟩
    · have off : ((Rounding.nearest .toEven number unit * unit : Nat) : Int) - number =
          -((number % unit : Nat) : Int) := by
        rw [down]
        omega
      rw [off, abs_neg, Nat.abs_cast]
      omega
    · have off : ((Rounding.nearest .toEven number unit * unit : Nat) : Int) - number =
          ((unit - number % unit : Nat) : Int) := by
        rw [up, Nat.add_mul]
        omega
      rw [off, Nat.abs_cast]
      omega
  refine ⟨⟨Rounding.nearest .toEven number unit, ?_⟩, distance.1, ?_⟩
  · rw [Nat.cast_mul, mul_comm]
  · intro half
    rcases Nat.dvd_of_mod_eq_zero (tie (distance.2 half)) with ⟨pairs, twice⟩
    refine ⟨pairs, ?_⟩
    rw [twice]
    push_cast
    ring

namespace Binary64

variable {number : Int}

theorem shape_ofInt_of_large (atLeast : 2 ^ (63 : Nat) ≤ number) (below : number < 2 ^ (64 : Nat)) :
    ∃ digits exponent, shape (ofInt number) = .finite false digits exponent ∧ 0 < digits ∧
      0 ≤ exponent ∧
      IsNearestMultiple (2 ^ (11 : Nat)) number ((digits * 2 ^ exponent.toNat : Nat) : Int) := by
  obtain ⟨magnitude, rfl⟩ := Int.eq_ofNat_of_zero_le (Int.le_trans (by decide) atLeast)
  have same : ofInt magnitude = ofNat magnitude := by
    rw [ofInt, ofNat, Int.natAbs_natCast, decide_eq_false (by omega)]
  rw [same]
  have magnitudeAtLeast : 2 ^ (53 + 10) ≤ magnitude := by
    change 2 ^ (63 : Nat) ≤ magnitude
    omega
  have magnitudeBelow : magnitude < 2 ^ (54 + 10) := by
    change magnitude < 2 ^ (64 : Nat)
    omega
  rcases shape_ofNat_of_large magnitudeAtLeast magnitudeBelow (by decide) with
    ⟨digits, exponent, shaped, positive, notFraction, rounded⟩
  refine ⟨digits, exponent, shaped, positive, notFraction, ?_⟩
  rw [rounded]
  exact isNearestMultiple_nearest magnitude (by decide)

theorem ofInt_ne_zero (atLeast : 2 ^ (63 : Nat) ≤ number) (below : number < 2 ^ (64 : Nat)) :
    (ofInt number == zero false) = false := by
  rw [Bool.eq_false_iff]
  intro equal
  rcases shape_ofInt_of_large atLeast below with ⟨digits, _, shaped, positive, _, _⟩
  have zeroShape (negative : Bool) : shape (zero negative) = .finite negative 0 minExponent := by
    cases negative <;> rfl
  rw [eq_zero_of_beq equal, zeroShape, Shape.finite.injEq] at shaped
  omega

end Binary64

namespace Coercion

variable {number : Int}

/-! ## Conversions of large doubles -/

theorem float64ToDecimal_of_large (atLeast : 2 ^ (63 : Nat) ≤ number)
    (below : number < 2 ^ (64 : Nat)) :
    ∃ result, float64ToDecimal (Binary64.ofInt number) = .ok result ∧ result.scale = 0 ∧
      IsNearestMultiple (2 ^ (11 : Nat)) number result.signed := by
  rcases Binary64.shape_ofInt_of_large atLeast below with
    ⟨digits, exponent, shaped, positive, notFraction, nearest⟩
  have fits : digits * 2 ^ exponent.toNat < 2 ^ (96 : Nat) := by
    have above := nearest.within.2
    omega
  let result : Decimal := ⟨false, digits * 2 ^ exponent.toNat, 0, fits, by omega⟩
  have converted : Decimal.ofFloat? (Binary64.ofInt number) = some result := by
    rw [Decimal.ofFloat?, shaped]
    dsimp only
    rw [if_neg (Nat.ne_of_gt positive), if_pos notFraction, Decimal.ofNat?, dif_pos fits]
  refine ⟨result, ?_, rfl, nearest⟩
  rw [float64ToDecimal, Binary64.isNaN_ofInt, converted]
  rfl

theorem float64ToInt32_of_large (atLeast : 2 ^ (63 : Nat) ≤ number)
    (below : number < 2 ^ (64 : Nat)) :
    ∃ text, float64ToInt32 (Binary64.ofInt number) = .error (.overflow text .int32) := by
  rcases Binary64.shape_ofInt_of_large atLeast below with
    ⟨digits, exponent, shaped, positive, notFraction, nearest⟩
  have whole : Binary64.wholeMagnitude .toEven digits exponent = digits * 2 ^ exponent.toNat := by
    have noPlaces : (-exponent).toNat = 0 := by omega
    have alone := Rounding.nearest_mul .toEven (digits * 2 ^ exponent.toNat) Nat.one_pos
    rw [Nat.mul_one] at alone
    rw [Binary64.wholeMagnitude, noPlaces, Nat.pow_zero, alone]
  have large : ¬IsSmall ((digits * 2 ^ exponent.toNat : Nat) : Int) := by
    have below := nearest.within.1
    rintro ⟨_, small⟩
    omega
  refine ⟨Binary64.plainText (Binary64.ofInt number), ?_⟩
  rw [float64ToInt32, Binary64.isNaN_ofInt, Binary64.toInt?, shaped]
  dsimp only
  rw [whole, if_neg Bool.false_ne_true, if_neg Bool.false_ne_true, Option.bind_some,
    int32OfInt?_of_not_isSmall large]

end Coercion

namespace Value

open Coercion

variable {number : Int}

/-! ## Whole numbers in a kind -/

theorem exists_standsFor {target : Kind} (unwraps : target ∈ [Kind.boolean, .int32, .decimal])
    (least : -2 ^ (63 : Nat) ≤ number) :
    ∃ value, StandsFor number value ∧ ofJson target (.integer number) = value.coerce target := by
  rcases ofScalar_integer target least with ⟨value, unwrapped, stands⟩
  refine ⟨value, stands, ?_⟩
  rw [List.mem_cons, List.mem_cons, List.mem_singleton] at unwraps
  rcases unwraps with rfl | rfl | rfl
  · change (object (.integer number)).toBoolean.map boolean = _
    rw [toBoolean, unwrap, unwrapped]
    cases stands <;> rfl
  · change (object (.integer number)).toInt32.map int32 = _
    rw [toInt32, unwrap, unwrapped]
    cases stands <;> rfl
  · change (object (.integer number)).toDecimal.map decimal = _
    rw [toDecimal, unwrap, unwrapped]
    cases stands <;> rfl

theorem ofJson_decimal_integer (least : -2 ^ (63 : Nat) ≤ number)
    (greatest : number < 2 ^ (64 : Nat)) :
    ∃ value, ofJson .decimal (.integer number) = .ok (decimal value) ∧ value.scale = 0 ∧
      (number < 2 ^ (63 : Nat) → value.signed = number) ∧
      (2 ^ (63 : Nat) ≤ number → IsNearestMultiple (2 ^ (11 : Nat)) number value.signed) := by
  have unwraps : Kind.decimal ∈ [Kind.boolean, .int32, .decimal] := by decide
  rcases exists_standsFor unwraps least with ⟨value, stands, equal⟩
  cases stands with
  | @small word same =>
      refine ⟨.ofInt32 word, equal, rfl, fun _ => (Decimal.signed_ofInt32 word).trans same, ?_⟩
      intro large
      have small := (same ▸ isSmall_toInt word : IsSmall number).2
      omega
  | @middle value _ bound whole same =>
      exact ⟨value, equal, whole, fun _ => same, fun large => absurd bound (Int.not_lt.mpr large)⟩
  | large atLeast =>
      rcases float64ToDecimal_of_large atLeast greatest with ⟨result, converted, whole, nearest⟩
      exact ⟨result, equal.trans (congrArg (Except.map decimal) converted), whole,
        fun small => absurd small (Int.not_lt.mpr atLeast), fun _ => nearest⟩

theorem ofJson_int32_of_isSmall (small : IsSmall number) :
    ∃ word : Int32, word.toInt = number ∧ ofJson .int32 (.integer number) = .ok (int32 word) := by
  have exact : (Int32.ofInt number).toInt = number := Int32.toInt_ofInt_of_le small.1 small.2
  have read := ofJson_integer (Int32.ofInt number)
  rw [exact] at read
  exact ⟨Int32.ofInt number, exact, read⟩

theorem ofJson_int32_of_not_isSmall (least : -2 ^ (63 : Nat) ≤ number)
    (greatest : number < 2 ^ (64 : Nat)) (large : ¬IsSmall number) :
    ∃ text, ofJson .int32 (.integer number) = .error (.overflow text .int32) := by
  have unwraps : Kind.int32 ∈ [Kind.boolean, .int32, .decimal] := by decide
  rcases exists_standsFor unwraps least with ⟨value, stands, equal⟩
  cases stands with
  | small same => exact absurd (same ▸ isSmall_toInt _) large
  | @middle value _ _ whole same =>
      have tooLarge : value.toInt32? = none := by
        rw [Decimal.toInt32?, Decimal.toInt_eq_signed whole, same]
        exact int32OfInt?_of_not_isSmall large
      refine ⟨.ofList value.text, equal.trans ?_⟩
      change (decimalToInt32 value).map int32 = _
      rw [decimalToInt32, tooLarge]
      rfl
  | large atLeast =>
      rcases float64ToInt32_of_large atLeast greatest with ⟨text, failed⟩
      exact ⟨text, equal.trans (congrArg (Except.map int32) failed)⟩

theorem ofJson_string_integer (number : Int) :
    ofJson .string (.integer number) = .ok (string (.ofList
      (if number < 0 then '-' :: Text.Digits.write number.natAbs
        else Text.Digits.write number.natAbs))) := by
  cases number with
  | ofNat magnitude => rfl
  | negSucc magnitude =>
      rw [if_pos (Int.negSucc_lt_zero magnitude)]
      rfl

theorem ofJson_boolean_integer (least : -2 ^ (63 : Nat) ≤ number)
    (greatest : number < 2 ^ (64 : Nat)) :
    ofJson .boolean (.integer number) = .ok (boolean (decide (number ≠ 0))) := by
  have unwraps : Kind.boolean ∈ [Kind.boolean, .int32, .decimal] := by decide
  rcases exists_standsFor unwraps least with ⟨value, stands, equal⟩
  cases stands with
  | @small word same =>
      refine equal.trans (congrArg (Except.ok ∘ boolean) ?_)
      rw [← same, bne, Bool.eq_iff_iff]
      simp [← Int32.toInt_inj]
  | @middle value large _ whole same =>
      refine equal.trans (congrArg (Except.ok ∘ boolean) ?_)
      rw [← same, Decimal.isZero, Decimal.signed, Bool.eq_iff_iff]
      cases value.negative <;> simp
  | large atLeast =>
      refine equal.trans (congrArg (Except.ok ∘ boolean) ?_)
      have positive : number ≠ 0 := by omega
      rw [float64ToBoolean, Binary64.isNaN_ofInt, bne, Binary64.ofInt_ne_zero atLeast greatest,
        decide_eq_true positive]
      rfl

/-- A whole number of JSON has its digits as its text and is true unless it is zero. It becomes the
number of 32 bits that it is, or is out of range. As a decimal it is exact up to 63 bits; one that
is larger becomes the nearest multiple of 2^11. -/
theorem whole_numbers_convert (least : -2 ^ (63 : Nat) ≤ number)
    (greatest : number < 2 ^ (64 : Nat)) :
    (∃ value, ofJson .decimal (.integer number) = .ok (decimal value) ∧
      (value.number = number ↔ number < 2 ^ (63 : Nat) ∨ 2 ^ (11 : Nat) ∣ number) ∧
      (2 ^ (63 : Nat) ≤ number → ∃ nearest : Int, value.number = nearest ∧
        IsNearestMultiple (2 ^ (11 : Nat)) number nearest)) ∧
    (IsSmall number → ∃ word : Int32, word.toInt = number ∧
      ofJson .int32 (.integer number) = .ok (int32 word)) ∧
    (¬IsSmall number → ∃ text,
      ofJson .int32 (.integer number) = .error (.overflow text .int32)) ∧
    (∃ digits, Text.Digits.read? digits = some number.natAbs ∧
      (digits.head? = some '0' → digits = ['0']) ∧
      ofJson .string (.integer number) =
        .ok (string (.ofList (if number < 0 then '-' :: digits else digits)))) ∧
    ofJson .boolean (.integer number) = .ok (boolean (decide (number ≠ 0))) := by
  refine ⟨?_, ofJson_int32_of_isSmall, ofJson_int32_of_not_isSmall least greatest, ?_,
    ofJson_boolean_integer least greatest⟩
  · rcases ofJson_decimal_integer least greatest with ⟨value, converted, whole, exact, rounded⟩
    have number_eq := Decimal.number_eq_signed whole
    refine ⟨value, converted, ?_, fun large => ⟨value.signed, number_eq, rounded large⟩⟩
    rw [number_eq, Int.cast_inj]
    rcases lt_or_ge number (2 ^ (63 : Nat)) with small | large
    · exact iff_of_true (exact small) (.inl small)
    · rw [(rounded large).eq_iff (by decide)]
      exact ⟨.inr, fun either => either.resolve_left (Int.not_lt.mpr large)⟩
  · exact ⟨Text.Digits.write number.natAbs, Text.Digits.read?_write _,
      Text.Digits.write_of_leading_zero, ofJson_string_integer number⟩

/-- Seven is a number of 32 bits. The greatest whole number is out of range for these and is rounded
as a decimal, but its text has all of its digits. -/
theorem greatest_whole_number_converts :
    let greatest : Int := 18446744073709551615
    (-2 ^ (63 : Nat) ≤ (7 : Int) ∧ (7 : Int) < 2 ^ (64 : Nat) ∧
      (∃ value, ofJson .decimal (.integer 7) = .ok (decimal value) ∧ value.number = 7) ∧
      ∃ word : Int32, word.toInt = 7 ∧ ofJson .int32 (.integer 7) = .ok (int32 word)) ∧
    (-2 ^ (63 : Nat) ≤ greatest ∧ greatest < 2 ^ (64 : Nat)) ∧
      (∃ value, ofJson .decimal (.integer greatest) = .ok (decimal value) ∧
        value.number ≠ greatest ∧ ∃ nearest : Int, value.number = nearest ∧
          IsNearestMultiple (2 ^ (11 : Nat)) greatest nearest) ∧
      (∃ text, ofJson .int32 (.integer greatest) = .error (.overflow text .int32)) ∧
      ofJson .boolean (.integer greatest) = .ok (boolean true) ∧
      ∃ digits, Text.Digits.read? digits = some greatest.natAbs ∧
        (digits.head? = some '0' → digits = ['0']) ∧
        ofJson .string (.integer greatest) = .ok (string (.ofList digits)) := by
  intro greatest
  have least : -2 ^ (63 : Nat) ≤ greatest := by decide
  have most : greatest < 2 ^ (64 : Nat) := by decide
  have large : ¬IsSmall greatest := by
    rintro ⟨_, impossible⟩
    exact absurd impossible (by decide)
  have small : IsSmall 7 := ⟨by decide, by decide⟩
  rcases whole_numbers_convert (by decide : -2 ^ (63 : Nat) ≤ (7 : Int)) (by decide) with
    ⟨⟨seven, isSeven, exact, _⟩, word, _⟩
  rcases whole_numbers_convert least most with
    ⟨⟨value, converted, isExact, rounded⟩, _, outOfRange, ⟨digits, read, leading, written⟩, truth⟩
  refine ⟨⟨by decide, by decide, ⟨seven, isSeven, ?_⟩, word small⟩, ⟨least, most⟩,
    ⟨value, converted, ?_, rounded (by decide)⟩, outOfRange large, truth, digits, read, leading,
    written⟩
  · exact_mod_cast exact.mpr (.inl (by decide))
  · exact fun equal => absurd (isExact.mp equal) (by decide)

/-- The greatest whole number becomes another number as a decimal. -/
theorem greatest_whole_number_is_rounded :
    ∃ value, ofJson .decimal (.integer 18446744073709551615) = .ok (decimal value) ∧
      value.number ≠ 18446744073709551615 := by
  have least : -2 ^ (63 : Nat) ≤ (18446744073709551615 : Int) := by decide
  rcases ofJson_decimal_integer least (by decide) with ⟨value, converted, whole, _, rounded⟩
  have nearest := rounded (by decide)
  have different := (not_congr (nearest.eq_iff (by decide))).mpr (by decide)
  refine ⟨value, converted, ?_⟩
  rw [Decimal.number_eq_signed whole]
  exact_mod_cast different

end Value

end GroupedReport
