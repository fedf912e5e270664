import GroupedReport.Proofs.Value.Integers

/-!
# Narrowing to 32 bits

A decimal is narrowed to the nearest whole number, the even one of two that are as near, and only
that has to fit in 32 bits: a number beyond the range may be rounded into it, and one within it out
of it. A whole number of 32 bits comes back from its decimal and from its text.
-/

namespace GroupedReport

-- Powers are those of the core library, whatever else is imported.
attribute [local instance (high)] instPowNat

/-! ## The nearest whole number -/

/-- Whether a whole number is nearest to a number, the even one where two of them are. -/
structure IsNearest (exact : ℚ) (whole : ℤ) : Prop where
  near : |exact - whole| ≤ 1 / 2
  even : |exact - whole| = 1 / 2 → Even whole

namespace IsNearest

variable {exact : ℚ} {whole : ℤ}

theorem neg (nearest : IsNearest exact whole) : IsNearest (-exact) (-whole) := by
  have mirrored : |-exact - ((-whole : ℤ) : ℚ)| = |exact - whole| := by
    rw [Int.cast_neg, neg_sub_neg, abs_sub_comm]
  constructor
  · rw [mirrored]
    exact nearest.near
  · rw [mirrored, even_neg]
    exact nearest.even

theorem unique {other : ℤ} (nearest : IsNearest exact whole)
    (otherNearest : IsNearest exact other) : whole = other := by
  have apart : |(whole : ℚ) - other| ≤ |exact - whole| + |exact - other| := by
    rw [abs_sub_comm exact]
    exact abs_sub_le _ _ _
  have nearOther := otherNearest.near
  have near := nearest.near
  by_contra different
  have atLeast : (1 : ℚ) ≤ |(whole : ℚ) - other| := by
    exact_mod_cast Int.one_le_abs (sub_ne_zero.mpr different)
  have atMost : |whole - other| ≤ 1 := by
    have : |(whole : ℚ) - other| ≤ 1 := by linarith
    exact_mod_cast this
  -- Both are half a unit off, so that both are even, but they are neighbours.
  rcases nearest.even (by linarith) with ⟨half, rfl⟩
  rcases otherNearest.even (by linarith) with ⟨otherHalf, rfl⟩
  rw [abs_le] at atMost
  omega

end IsNearest

theorem IsNearestMultiple.isNearest {unit : Nat} (positive : 0 < unit) {number whole : ℤ}
    (multiple : IsNearestMultiple unit number (whole * unit)) :
    IsNearest (number / unit) whole := by
  have unitPositive : (0 : ℚ) < unit := by exact_mod_cast positive
  have distance : 2 * |(number : ℚ) / unit - whole| * unit = (2 * |whole * unit - number| : ℤ) := by
    have scaled : (number : ℚ) / unit - whole = (number - whole * unit) / unit := by
      field_simp
    rw [scaled, abs_div, abs_of_pos unitPositive, mul_assoc, div_mul_cancel₀ _ unitPositive.ne',
      abs_sub_comm]
    push_cast
    rfl
  constructor
  · have near : 2 * |(number : ℚ) / unit - whole| * unit ≤ 1 * unit := by
      rw [distance, one_mul]
      exact_mod_cast multiple.near
    have := le_of_mul_le_mul_right near unitPositive
    linarith
  · intro half
    rw [half, mul_one_div_cancel two_ne_zero, one_mul] at distance
    have tie : 2 * |whole * unit - number| = (unit : ℤ) := by exact_mod_cast distance.symm
    have divides := multiple.even tie
    rw [even_iff_two_dvd]
    exact Int.dvd_of_mul_dvd_mul_right (by omega) divides

/-! ## Decimals -/

theorem Decimal.isNearest_toInt (value : Decimal) : IsNearest value.number value.toInt := by
  have positive := power_pos value.scale
  have multiple := isNearestMultiple_nearest value.coefficient positive
  rw [Nat.cast_mul] at multiple
  have nearest := multiple.isNearest positive
  rw [number_eq_withSign, toInt, withSign]
  split
  · have := nearest.neg
    push_cast at this ⊢
    exact this
  · push_cast at nearest ⊢
    exact nearest

namespace Coercion

theorem decimalToInt32_of_isSmall {value : Decimal} (small : IsSmall value.toInt) :
    ∃ word : Int32, word.toInt = value.toInt ∧ decimalToInt32 value = .ok word := by
  rcases int32OfInt?_of_isSmall small with ⟨word, found, same⟩
  have narrowed : value.toInt32? = some word := found
  refine ⟨word, same, ?_⟩
  rw [decimalToInt32, narrowed]

theorem decimalToInt32_of_not_isSmall {value : Decimal} (large : ¬IsSmall value.toInt) :
    decimalToInt32 value = .error (.overflow (.ofList value.text) .int32) := by
  have tooLarge : value.toInt32? = none := int32OfInt?_of_not_isSmall large
  rw [decimalToInt32, tooLarge]

theorem decimalToInt32_ofInt32 (word : Int32) : decimalToInt32 (.ofInt32 word) = .ok word := by
  have same : (Decimal.ofInt32 word).toInt = word.toInt :=
    (Decimal.toInt_eq_signed rfl).trans (Decimal.signed_ofInt32 word)
  have narrowed : (Decimal.ofInt32 word).toInt32? = some word := by
    change int32OfInt? (Decimal.ofInt32 word).toInt = _
    rw [same]
    exact int32OfInt?_toInt word
  rw [decimalToInt32, narrowed]

end Coercion

/-! ## Text -/

namespace Binary64

theorem readSign_of_isDigit {digits : List Char}
    (allDigits : ∀ character ∈ digits, character.isDigit = true) :
    readSign digits = (false, digits) := by
  cases digits with
  | nil => rfl
  | cons first others =>
      have digit : first.isDigit = true := allDigits first List.mem_cons_self
      rw [readSign]
      · rintro _ ⟨⟩
        cases digit
      · rintro _ ⟨⟩
        cases digit

theorem readSign_writeInt (number : ℤ) :
    readSign (Text.Digits.writeInt number) =
      (decide (number < 0), Text.Digits.write number.natAbs) := by
  cases number with
  | negSucc number =>
      rw [decide_eq_true (Int.negSucc_lt_zero number)]
      rfl
  | ofNat number =>
      have notNegative : ¬Int.ofNat number < 0 := Int.not_lt.mpr (Int.natCast_nonneg number)
      rw [decide_eq_false notNegative]
      exact readSign_of_isDigit fun _ => Text.Digits.isDigit_of_mem_write

end Binary64

namespace Coercion

theorem readInt32_writeInt (word : Int32) :
    readInt32 (.ofList (Text.Digits.writeInt word.toInt)) = .ok word := by
  have split : Text.Digits.split (Text.Digits.write word.toInt.natAbs) =
      (Text.Digits.write word.toInt.natAbs, []) :=
    Text.Digits.split_of_digits fun _ => Text.Digits.isDigit_of_mem_write
  have number : (if decide (word.toInt < 0) = true then -(word.toInt.natAbs : ℤ)
      else word.toInt.natAbs) = word.toInt :=
    Decimal.signed_ofInteger word.toInt
  have digits : (Text.Digits.write word.toInt.natAbs).isEmpty = false :=
    List.isEmpty_eq_false_iff.mpr (Text.Digits.write_ne_nil _)
  rw [readInt32, String.toList_ofList, (Text.solid_writeInt _).trim_eq,
    Binary64.readSign_writeInt]
  dsimp only
  rw [split, Text.Digits.value_write, number, int32OfInt?_toInt, digits]
  rfl

end Coercion

open Coercion

namespace Value

theorem toInt32_decimal (value : Decimal) : (decimal value).toInt32 = decimalToInt32 value := rfl

theorem toInt32_string (text : String) : (string text).toInt32 = readInt32 text := rfl

theorem coerce_int32_decimal (word : Int32) :
    (int32 word).coerce .decimal = .ok (decimal (.ofInt32 word)) := rfl

theorem coerce_int32_string (word : Int32) :
    (int32 word).coerce .string = .ok (string (.ofList (Text.Digits.writeInt word.toInt))) := rfl

theorem coerce_of_kind?_ne {value : Value} {own kind : Kind} (hasKind : value.kind? = some own)
    (other : own ≠ kind) : value.coerce kind = value.readAs kind := by
  apply if_neg
  rintro (missing | same)
  · cases value with
    | null => cases hasKind
    | _ => cases missing
  · rw [hasKind] at same
    exact other (Option.some.inj same)

theorem int32_of_decimal (word : Int32) :
    ((int32 word).coerce .decimal).bind (·.coerce .int32) = .ok (int32 word) := by
  rw [coerce_int32_decimal, Except.bind, coerce_of_kind?_ne rfl (by decide), readAs,
    toInt32_decimal, decimalToInt32_ofInt32]
  rfl

theorem int32_of_text (word : Int32) :
    ((int32 word).coerce .string).bind (·.coerce .int32) = .ok (int32 word) := by
  rw [coerce_int32_string, Except.bind, coerce_of_kind?_ne rfl (by decide), readAs,
    toInt32_string, readInt32_writeInt]
  rfl

end Value

/-- A decimal is narrowed to the nearest whole number, the even one of two, if that has 32 bits,
and is out of range otherwise. What has 32 bits comes back from its decimal and from its text. -/
theorem decimals_narrow_half_even :
    (∀ value : Decimal, ∃ nearest : ℤ, IsNearest value.number nearest ∧
      (∀ other, IsNearest value.number other → other = nearest) ∧
      (IsSmall nearest →
        ∃ word : Int32, word.toInt = nearest ∧ (Value.decimal value).toInt32 = .ok word) ∧
      (¬IsSmall nearest → (Value.decimal value).toInt32 =
        .error (.overflow (.ofList value.text) .int32))) ∧
    ∀ word : Int32,
      ((Value.int32 word).coerce .decimal).bind (·.coerce .int32) = .ok (.int32 word) ∧
      ((Value.int32 word).coerce .string).bind (·.coerce .int32) = .ok (.int32 word) := by
  refine ⟨fun value => ⟨value.toInt, value.isNearest_toInt, ?_, ?_, ?_⟩, fun word =>
    ⟨Value.int32_of_decimal word, Value.int32_of_text word⟩⟩
  · exact fun other nearest => nearest.unique value.isNearest_toInt
  · rw [Value.toInt32_decimal]
    exact decimalToInt32_of_isSmall
  · rw [Value.toInt32_decimal]
    exact decimalToInt32_of_not_isSmall

/-- Half a unit below the least number of 32 bits, that number is the even one. Half a unit above
the greatest one, it is not. -/
theorem ties_narrow_at_bounds :
    (∃ word : Int32, word.toInt = -2147483648 ∧
      (Value.decimal ⟨true, 21474836485, 1, by decide, by decide⟩).toInt32 = .ok word) ∧
    (Value.decimal ⟨false, 21474836475, 1, by decide, by decide⟩).toInt32 =
      .error (.overflow "2147483647.5" .int32) := by
  have text : String.ofList (Decimal.text ⟨false, 21474836475, 1, by decide, by decide⟩) =
      "2147483647.5" := by cbv
  have below : IsNearest (Decimal.number ⟨true, 21474836485, 1, by decide, by decide⟩)
      (-2147483648) := by
    constructor <;> norm_num [Decimal.number, Decimal.signed]
  have above : IsNearest (Decimal.number ⟨false, 21474836475, 1, by decide, by decide⟩)
      2147483648 := by
    constructor <;> norm_num [Decimal.number, Decimal.signed]
  rcases decimals_narrow_half_even.1 ⟨true, 21474836485, 1, by decide, by decide⟩ with
    ⟨least, _, leastUnique, fits, _⟩
  rcases decimals_narrow_half_even.1 ⟨false, 21474836475, 1, by decide, by decide⟩ with
    ⟨greatest, _, greatestUnique, _, exceeds⟩
  rw [← leastUnique _ below] at fits
  rw [← greatestUnique _ above, text] at exceeds
  have small : IsSmall (-2147483648) := ⟨by decide, by decide⟩
  have large : ¬IsSmall 2147483648 := fun small => absurd small.2 (by decide)
  exact ⟨fits small, exceeds large⟩

end GroupedReport
