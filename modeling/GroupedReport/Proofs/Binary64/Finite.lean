import GroupedReport.Proofs.Binary64.Order

/-!
# Finite doubles

A double is finite if its exponent stays within bounds. Rounding raises an exponent only as far as
there are bits to be rounded away, so the quotient of a double of moderate size by a power of ten is
finite, and so is every double of a whole number of 64 bits. A finite double can be added to any
number.
-/

namespace GroupedReport.Binary64

open Float.Model (Format UnpackedFloat totalExponent)
open Float.Model.UnpackedFloat hiding pack unpack isNaN

-- Powers are those of the core library, whatever else is imported.
attribute [local instance (high)] instPowNat

variable {left right value : Float}

/-! ## Exponents -/

/-- Whether what a double is taken apart to is finite, with an exponent up to a bound. -/
def IsWithin (bound : Int) : UnpackedFloat → Prop
  | .zero _ => True
  | .finite _ _ exponent _ => exponent ≤ bound
  | .infinity _ | .notANumber => False

theorem IsWithin.mono {bound more : Int} (atMost : bound ≤ more) {value : UnpackedFloat}
    (within : IsWithin bound value) : IsWithin more value := by
  cases value with
  | zero => trivial
  | finite => exact Int.le_trans within atMost
  | infinity | notANumber => cases within

theorem isWithin_unpack {bound : Int} {bits : BitVec Format.binary64.numBits}
    (finite : (unpackExponent bits).toNat ≠ 2047)
    (atMost : ((unpackExponent bits).toNat : Int) - 1075 ≤ bound) (least : minExponent ≤ bound) :
    IsWithin bound (UnpackedFloat.unpack Format.binary64 bits) := by
  have notLargest : unpackExponent bits ≠ -1#11 := by
    intro largest
    rw [largest] at finite
    exact finite rfl
  rw [UnpackedFloat.unpack]
  dsimp only
  rw [if_neg notLargest]
  split
  · rename_i isLeast
    split
    · trivial
    · rw [isLeast]
      exact least
  · exact atMost

theorem isWithin_pack {bound : Int} (least : minExponent ≤ bound) (greatest : bound ≤ 971)
    {value : UnpackedFloat} (within : IsWithin bound value) :
    IsWithin bound (UnpackedFloat.unpack Format.binary64
      (UnpackedFloat.pack Format.binary64 value)) := by
  have subnormal (sign : Sign) (mantissa : BitVec Format.binary64.mantissaBitsWithoutImplicit) :
      IsWithin bound (UnpackedFloat.unpack Format.binary64
        (packComponents Format.binary64 sign 0#_ mantissa)) := by
    apply isWithin_unpack _ _ least
    · rw [unpackExponent_packComponents]
      decide
    · rw [unpackExponent_packComponents]
      exact Int.le_trans (by decide) least
  cases value with
  | infinity | notANumber => cases within
  | zero sign => exact subnormal sign _
  | finite sign significand exponent positive =>
      change exponent ≤ bound at within
      rw [UnpackedFloat.pack]
      dsimp only
      split
      · rename_i infinite
        change 2048 ≤ (exponent + 1023 + 52).toNat + 1 at infinite
        omega
      · split
        · apply isWithin_unpack _ _ least
          · rw [unpackExponent_packComponents, BitVec.toNat_ofNat]
            change (exponent + 1023 + 52).toNat % 2048 ≠ 2047
            omega
          · rw [unpackExponent_packComponents, BitVec.toNat_ofNat]
            change (((exponent + 1023 + 52).toNat % 2048 : Nat) : Int) - 1075 ≤ bound
            rw [minExponent] at least
            omega
        · exact subnormal sign _

/-! ## Rounding -/

theorem mantissa_shiftRight (significand : ExtendedMantissa) (count : Nat) :
    (significand >>> count).mantissa = significand.mantissa / 2 ^ count := by
  induction count with
  | zero => exact (Nat.div_one _).symm
  | succ count induction =>
      change (significand >>> count).mantissa / 2 = _
      rw [induction, Nat.div_div_eq_div_mul, Nat.pow_succ]

theorem roundedMantissa_le (significand : ExtendedMantissa) :
    significand.roundedMantissa ≤ significand.mantissa + 1 := by
  rw [ExtendedMantissa.roundedMantissa, Accuracy.roundToNearestEven.eq_def]
  split <;> omega

theorem mantissa_shiftToTargetExponent (significand : Nat) (exponent : Int) (accuracy : Accuracy) :
    (shiftToTargetExponent Format.binary64 significand exponent accuracy).1.mantissa =
      significand / 2 ^ (Format.binary64.targetExponent (totalExponent significand exponent) -
        exponent).toNat := by
  rw [shiftToTargetExponent, shiftToExponent]
  refine (mantissa_shiftRight _ _).trans (congrArg (· / _) ?_)
  rw [ExtendedMantissa.ofMantissaAndAccuracy.eq_def]
  split <;> rfl

theorem log2_le_of_le_div {number count rounded : Nat}
    (atMost : rounded ≤ number / 2 ^ count + 1) : rounded.log2 ≤ number.log2 + 1 - count := by
  by_cases isZero : rounded = 0
  · rw [isZero]
    exact Nat.zero_le _
  · apply Nat.le_of_lt_succ
    rw [Nat.log2_lt isZero]
    have quotient : number / 2 ^ count < 2 ^ (number.log2 + 1 - count) := by
      rw [Nat.div_lt_iff_lt_mul (Nat.two_pow_pos count), ← Nat.pow_add]
      exact Nat.lt_of_lt_of_le Nat.lt_log2_self (Nat.pow_le_pow_right (by decide) (by omega))
    rw [Nat.pow_succ]
    omega

theorem isWithin_roundWithAccuracy {bound : Int} {significand : Nat} {exponent : Int}
    (least : minExponent ≤ bound) (low : exponent ≤ bound)
    (high : totalExponent significand exponent - 52 ≤ bound) (sign : Sign) (accuracy : Accuracy) :
    IsWithin bound (roundWithAccuracy Format.binary64 sign significand exponent accuracy) := by
  have shifted := mantissa_shiftToTargetExponent significand exponent accuracy
  have moved : (shiftToTargetExponent Format.binary64 significand exponent accuracy).2 =
    exponent + (Format.binary64.targetExponent (totalExponent significand exponent) -
      exponent).toNat := rfl
  rw [roundWithAccuracy]
  generalize shiftToTargetExponent Format.binary64 significand exponent accuracy = first at *
  have fewer := log2_le_of_le_div (shifted ▸ roundedMantissa_le first.1)
  have movedAgain :
      (shiftToTargetExponent Format.binary64 first.1.roundedMantissa first.2 .exact).2 =
        first.2 + (Format.binary64.targetExponent
          (totalExponent first.1.roundedMantissa first.2) - first.2).toNat := rfl
  dsimp only
  split
  · trivial
  · change (shiftToTargetExponent Format.binary64 first.1.roundedMantissa first.2 .exact).2 ≤ bound
    rw [targetExponent_eq, totalExponent] at moved movedAgain fewer
    rw [totalExponent] at high
    rw [minExponent] at *
    omega

/-! ## Quotients -/

def isAtLeast (least : Int) : UnpackedFloat → Bool
  | .finite .positive _ exponent _ => decide (least ≤ exponent)
  | _ => false

theorem eq_finite_of_isAtLeast {least : Int} {value : UnpackedFloat}
    (atLeast : isAtLeast least value = true) :
    ∃ significand exponent positive, value = .finite .positive significand exponent positive ∧
      least ≤ exponent := by
  cases value with
  | notANumber | infinity | zero => cases atLeast
  | finite sign significand exponent positive =>
      cases sign with
      | negative => cases atLeast
      | positive => exact ⟨significand, exponent, positive, rfl, of_decide_eq_true atLeast⟩

theorem divCore_within {significand : Nat} (below : significand < 2 ^ (53 : Nat))
    (exponent : Int) (divisor : Nat) (scale : Int) :
    let quotient := divCore Format.binary64 significand exponent divisor scale
    quotient.2.1 ≤ exponent - scale ∧
      totalExponent quotient.1 quotient.2.1 - 52 ≤ exponent - scale + 1 := by
  intro quotient
  have low : quotient.2.1 ≤ exponent - scale := min_le_left _ _
  have digits : quotient.1 ≤ significand * 2 ^ (exponent - scale - quotient.2.1).toNat := by
    rw [← Nat.shiftLeft_eq]
    exact Nat.div_le_self _ divisor
  refine ⟨low, ?_⟩
  rw [totalExponent]
  generalize quotient.1 = number, quotient.2.1 = target at *
  have few : number.log2 ≤ 52 + (exponent - scale - target).toNat := by
    by_cases isZero : number = 0
    · rw [isZero]
      exact Nat.zero_le _
    · apply Nat.le_of_lt_succ
      rw [Nat.log2_lt isZero, ← Nat.succ_add, Nat.pow_add]
      exact Nat.lt_of_le_of_lt digits
        ((Nat.mul_lt_mul_right (Nat.two_pow_pos _)).mpr below)
  omega

theorem isWithin_divide {left right : Float} {bound least goal : Int}
    (within : IsWithin bound (unpacked left)) (divisor : isAtLeast least (unpacked right) = true)
    (fits : bound - least + 1 ≤ goal) (notLess : minExponent ≤ goal) (notMore : goal ≤ 971) :
    IsWithin goal (unpacked (left / right)) := by
  rcases eq_finite_of_isAtLeast divisor with ⟨other, scale, otherPositive, part, scaled⟩
  have quotient : IsWithin goal
      (UnpackedFloat.div Format.binary64 (unpacked left) (unpacked right)) := by
    rw [part]
    cases whole : unpacked left with
    | infinity | notANumber =>
        rw [whole] at within
        cases within
    | zero sign => trivial
    | finite sign significand exponent positive =>
        rw [whole] at within
        change exponent ≤ bound at within
        have core := divCore_within (canonical_of_unpacked whole).below exponent other scale
        exact isWithin_roundWithAccuracy notLess (Int.le_trans core.1 (by omega))
          (Int.le_trans core.2 (by omega)) _ _
  exact isWithin_pack notLess notMore quotient

/-! ## Whole numbers -/

theorem scaleExponent_within (number : Nat) :
    -53 ≤ scaleExponent number 1 ∧ scaleExponent number 1 ≤ (number.log2 : Int) - 52 ∧
      number * 2 ^ (-scaleExponent number 1).toNat <
        2 ^ (53 : Nat) * (1 * 2 ^ (scaleExponent number 1).toNat) := by
  have one : (1 : Nat).log2 = 0 := by decide
  rw [scaleExponent, one, minExponent]
  split
  · rename_i fits
    have notLeast : max ((number.log2 : Int) - (0 : Nat) - 53) (-1074) =
        (number.log2 : Int) - (0 : Nat) - 53 := by omega
    rw [notLeast]
    exact ⟨by omega, by omega, fits⟩
  · have notLeast : max ((number.log2 : Int) - (0 : Nat) - 53 + 1) (-1074) =
        (number.log2 : Int) - 52 := by omega
    have below : number < 2 ^ (number.log2 + 1) := Nat.lt_log2_self
    rw [notLeast, Nat.one_mul]
    refine ⟨by omega, Int.le_refl _, ?_⟩
    rcases Nat.le_total 52 number.log2 with large | small
    · have none : (-((number.log2 : Int) - 52)).toNat = 0 := by omega
      have all : 53 + ((number.log2 : Int) - 52).toNat = number.log2 + 1 := by omega
      rw [none, Nat.pow_zero, Nat.mul_one, ← Nat.pow_add, all]
      exact below
    · have none : ((number.log2 : Int) - 52).toNat = 0 := by omega
      have all : number.log2 + 1 + (-((number.log2 : Int) - 52)).toNat = 53 := by omega
      rw [none, Nat.pow_zero, Nat.mul_one, ← all, Nat.pow_add]
      exact (Nat.mul_lt_mul_right (Nat.two_pow_pos _)).mpr below

theorem scaledSignificand_le (number : Nat) :
    scaledSignificand number 1 (scaleExponent number 1) ≤ 2 ^ (53 : Nat) := by
  rcases scaleExponent_within number with ⟨_, _, below⟩
  rw [scaledSignificand]
  have atMost := Rounding.twice_nearest_le .toEven
    (number * 2 ^ (-scaleExponent number 1).toNat) (1 * 2 ^ (scaleExponent number 1).toNat)
  have unit : 0 < 1 * 2 ^ (scaleExponent number 1).toNat :=
    Nat.mul_pos (by decide) (Nat.two_pow_pos _)
  generalize Rounding.nearest .toEven _ _ = rounded at atMost ⊢
  generalize 1 * 2 ^ (scaleExponent number 1).toNat = size at *
  have less : rounded * size < (2 ^ (53 : Nat) + 1) * size := by
    rw [Nat.add_mul]
    omega
  exact Nat.le_of_lt_succ (Nat.lt_of_mul_lt_mul_right less)

theorem isWithin_ofMagnitudeBits (negative : Bool) {bits : Nat} {bound : Int}
    (below : bits < 2047 * 2 ^ (52 : Nat)) (atMost : (bits / 2 ^ (52 : Nat) : Nat) - 1075 ≤ bound)
    (notLess : minExponent ≤ bound) (notMore : bound ≤ 971) :
    IsWithin bound (unpacked (ofMagnitudeBits negative bits)) := by
  have field : (@unpackExponent Format.binary64 (UInt64.ofNat
      ((if negative then 2 ^ (63 : Nat) else 0) + bits)).toBitVec).toNat =
        bits / 2 ^ (52 : Nat) := by
    refine (toNat_unpackExponent _).trans ?_
    change ((if negative then 2 ^ (63 : Nat) else 0) + bits) % 2 ^ (64 : Nat) /
      2 ^ (52 : Nat) % 2 ^ (11 : Nat) = _
    cases negative <;> simp <;> omega
  apply isWithin_pack notLess notMore
  apply isWithin_unpack _ _ notLess
  · rw [field]
    omega
  · rw [field]
    exact atMost

theorem isWithin_nearest (negative : Bool) {number : Nat} (small : number < 2 ^ (64 : Nat)) :
    IsWithin 12 (unpacked (nearest negative number 1)) := by
  rw [nearest]
  split
  · exact isWithin_ofMagnitudeBits negative (by decide) (by decide) (by decide) (by decide)
  · rename_i notZero
    have bits := (Nat.log2_lt notZero).mpr small
    have significand := scaledSignificand_le number
    rcases scaleExponent_within number with ⟨low, high, _⟩
    dsimp only
    generalize scaledSignificand number 1 (scaleExponent number 1) = digits at *
    generalize scaleExponent number 1 = exponent at *
    rw [minExponent]
    rw [if_neg (by omega)]
    exact isWithin_ofMagnitudeBits negative (by omega) (by omega) (by decide) (by decide)

/-! ## Finite doubles -/

def isFinite (value : Float) : Bool :=
  !value.isNaN && !value.isInf

theorem isFinite_eq (value : Float) :
    isFinite value = (!(unpacked value).isNaN && !(unpacked value).isInf) := rfl

theorem isFinite_iff_isWithin : isFinite value = true ↔ IsWithin 971 (unpacked value) := by
  rw [isFinite_eq]
  constructor
  · intro finite
    have small := (@unpackExponent Format.binary64 value.toModel.toBits.toBitVec).isLt
    change _ < 2048 at small
    change (!(UnpackedFloat.unpack Format.binary64 value.toModel.toBits.toBitVec).isNaN &&
      !(UnpackedFloat.unpack Format.binary64 value.toModel.toBits.toBitVec).isInf) = true at finite
    change IsWithin 971 (UnpackedFloat.unpack Format.binary64 value.toModel.toBits.toBitVec)
    generalize value.toModel.toBits.toBitVec = bits at *
    have notLargest : (@unpackExponent Format.binary64 bits).toNat ≠ 2047 := by
      intro largest
      have exponent : @unpackExponent Format.binary64 bits = -1#11 := BitVec.eq_of_toNat_eq largest
      rw [UnpackedFloat.unpack] at finite
      dsimp only at finite
      rw [if_pos exponent] at finite
      split at finite <;> cases finite
    exact isWithin_unpack notLargest (by omega) (by decide)
  · intro within
    cases whole : unpacked value with
    | zero | finite => rfl
    | infinity | notANumber =>
        rw [whole] at within
        cases within

theorem isFinite_of_sign? (sign : sign? (unpacked value) = some .positive)
    (bounded : ¬(value == infinity false) = true) : isFinite value = true := by
  have unequal : ¬(unpacked value).beq (unpacked (infinity false)) = true := bounded
  rw [isFinite_eq]
  cases whole : unpacked value with
  | zero | finite => rfl
  | notANumber =>
      rw [whole] at sign
      cases sign
  | infinity =>
      rw [whole] at sign unequal
      cases sign
      exact absurd rfl unequal

theorem isFinite_negate (finite : isFinite value = true) : isFinite (-value) = true := by
  rw [isFinite_iff_isWithin] at finite ⊢
  have negated : IsWithin 971 (unpacked value).neg := by
    cases whole : unpacked value with
    | zero => trivial
    | finite | infinity | notANumber =>
        rw [whole] at finite
        exact finite
  exact isWithin_pack (by decide) (by decide) negated

theorem isFinite_nearest (negative : Bool) {number : Nat} (small : number < 2 ^ (64 : Nat)) :
    isFinite (nearest negative number 1) = true :=
  isFinite_iff_isWithin.mpr ((isWithin_nearest negative small).mono (by decide))

theorem isNaN_add_of_isFinite (isNumber : left.isNaN = false) (finite : isFinite right = true) :
    (left + right).isNaN = false := by
  simp only [isFinite, Bool.and_eq_true, Bool.not_eq_true'] at finite
  rcases finite with ⟨rightNumber, bounded⟩
  change (unpacked right).isInf = false at bounded
  rw [isNaN_eq] at isNumber rightNumber ⊢
  change (sign? (unpacked (Float.ofModel (.pack (UnpackedFloat.add _ (unpacked left)
    (unpacked right)))))).isNone = _
  rw [sign?_ofModel, Option.isNone_eq_false_iff]
  generalize unpacked left = left at isNumber
  generalize unpacked right = right at rightNumber bounded
  cases left <;> cases right
  case zero.zero first second => cases first <;> cases second <;> rfl
  all_goals first
    | cases isNumber; done
    | cases rightNumber; done
    | cases bounded; done
    | rfl
    | exact sign?_normalize ..

end GroupedReport.Binary64
