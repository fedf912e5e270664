import GroupedReport.Proofs.Binary64.Identity

/-!
# Doubles of large whole numbers

A whole number of more than 53 bits is rounded to the multiple of a power of two that its last 53
bits leave room for. The double says so: its significand times its power of two is that multiple.
-/

namespace GroupedReport.Binary64

open Float.Model (Format UnpackedFloat)
open Float.Model.UnpackedFloat (unpackExponent)

-- Powers are those of the core library, whatever else is imported.
attribute [local instance (high)] instPowNat

/-! ## Bits -/

theorem toBits_ofBits {bits : UInt64}
    (finite : bits.toNat / 2 ^ (52 : Nat) % 2 ^ (11 : Nat) ≠ 2047) :
    (Float.ofBits bits).toBits = bits := by
  have isFinite : ¬@unpackExponent Format.binary64 bits.toBitVec = -1#11 := by
    intro largest
    apply finite
    rw [← UInt64.toNat_toBitVec, ← toNat_unpackExponent, largest]
    rfl
  have valid : Format.binary64.Valid bits.toBitVec := ⟨fun largest => absurd largest isFinite⟩
  change UInt64.ofBitVec (UnpackedFloat.pack Format.binary64
    (UnpackedFloat.unpack Format.binary64 bits.toBitVec)) = bits
  rw [(pack_unpack_and_canonical valid).1]

theorem shape_ofMagnitudeBits {bits : Nat} (finite : bits < 2047 * 2 ^ (52 : Nat)) :
    shape (ofMagnitudeBits false bits) = shapeOfBits bits := by
  have small : bits < 2 ^ (64 : Nat) := by omega
  have same : (UInt64.ofNat (0 + bits)).toNat = bits := by
    rw [Nat.zero_add]
    exact Nat.mod_eq_of_lt small
  rw [shape, ofMagnitudeBits]
  change shapeOfBits (Float.ofBits (UInt64.ofNat (0 + bits))).toBits.toNat = _
  rw [toBits_ofBits, same]
  rw [same]
  omega

/-- What the bits of a double with an exponent field say, where the significand may have been
rounded up to the next power of two. -/
theorem shapeOfBits_carry {biased significand : Nat} (positive : 0 < biased) (small : biased < 2046)
    (atLeast : 2 ^ (52 : Nat) ≤ significand) (atMost : significand ≤ 2 ^ (53 : Nat)) :
    ∃ digits exponent, shapeOfBits ((biased - 1) * 2 ^ (52 : Nat) + significand) =
        .finite false digits exponent ∧ (biased : Int) - 1075 ≤ exponent ∧ 0 < digits ∧
      digits * 2 ^ (exponent - ((biased : Int) - 1075)).toNat = significand := by
  have positiveSign : decide (2 ^ (63 : Nat) ≤ (biased - 1) * 2 ^ (52 : Nat) + significand) =
      false := decide_eq_false (by omega)
  rw [shapeOfBits, positiveSign]
  rcases Nat.lt_or_eq_of_le atMost with below | rfl
  · have field : ((biased - 1) * 2 ^ (52 : Nat) + significand) / 2 ^ (52 : Nat) % 2 ^ (11 : Nat) =
        biased := by omega
    have fraction : ((biased - 1) * 2 ^ (52 : Nat) + significand) % 2 ^ (52 : Nat) +
        2 ^ (52 : Nat) = significand := by omega
    refine ⟨significand, (biased : Int) - 1075, ?_, Int.le_refl _, by omega, ?_⟩
    · rw [field, fraction, if_neg (by omega), if_neg (by omega)]
    · rw [Int.sub_self]
      exact Nat.mul_one significand
  · have field : ((biased - 1) * 2 ^ (52 : Nat) + 2 ^ (53 : Nat)) / 2 ^ (52 : Nat) %
        2 ^ (11 : Nat) = biased + 1 := by omega
    have fraction : ((biased - 1) * 2 ^ (52 : Nat) + 2 ^ (53 : Nat)) % 2 ^ (52 : Nat) = 0 := by
      omega
    have next : ((biased + 1 : Nat) : Int) - 1075 = (biased : Int) - 1075 + 1 := by omega
    refine ⟨2 ^ (52 : Nat), (biased : Int) - 1075 + 1, ?_, by omega, by decide, ?_⟩
    · rw [field, fraction, if_neg (by omega), if_neg (by omega), Nat.zero_add, next]
    · rw [add_sub_cancel_left]
      rfl

/-! ## Rounding -/

variable {number more : Nat}

theorem log2_eq (atLeast : 2 ^ (53 + more) ≤ number) (below : number < 2 ^ (54 + more)) :
    number.log2 = 53 + more := by
  have notZero : number ≠ 0 := Nat.ne_of_gt (Nat.lt_of_lt_of_le (Nat.two_pow_pos _) atLeast)
  have low := (Nat.le_log2 notZero).mpr atLeast
  have high := (Nat.log2_lt notZero).mpr below
  omega

theorem scaleExponent_of_large (atLeast : 2 ^ (53 + more) ≤ number)
    (below : number < 2 ^ (54 + more)) : scaleExponent number 1 = more + 1 := by
  have estimate : (number.log2 : Int) - (1 : Nat).log2 - 53 = more := by
    rw [log2_eq atLeast below]
    change ((53 + more : Nat) : Int) - 0 - 53 = more
    omega
  have full : ¬number * 2 ^ (-(more : Int)).toNat <
      2 ^ (53 : Nat) * (1 * 2 ^ (more : Int).toNat) := by
    have none : (-(more : Int)).toNat = 0 := by omega
    rw [none, Int.toNat_natCast, Nat.pow_zero, Nat.mul_one, Nat.one_mul, ← Nat.pow_add]
    exact Nat.not_lt.mpr atLeast
  rw [scaleExponent, estimate, if_neg full, minExponent]
  omega

theorem nearest_of_large (atLeast : 2 ^ (53 + more) ≤ number) (below : number < 2 ^ (54 + more)) :
    2 ^ (52 : Nat) ≤ Rounding.nearest .toEven number (2 ^ (more + 1)) ∧
      Rounding.nearest .toEven number (2 ^ (more + 1)) ≤ 2 ^ (53 : Nat) := by
  have unit : 0 < 2 ^ (more + 1) := Nat.two_pow_pos _
  have least : 2 ^ (53 + more) = 2 ^ (52 : Nat) * 2 ^ (more + 1) := by
    rw [← Nat.pow_add]
    congr 1
    omega
  have limit : 2 ^ (54 + more) = 2 ^ (53 : Nat) * 2 ^ (more + 1) := by
    rw [← Nat.pow_add]
    congr 1
    omega
  have upper := Rounding.twice_nearest_le .toEven number (2 ^ (more + 1))
  have lower := Rounding.le_twice_nearest .toEven number unit
  generalize Rounding.nearest .toEven number (2 ^ (more + 1)) = rounded at upper lower
  rw [least] at atLeast
  rw [limit] at below
  generalize 2 ^ (more + 1) = size at *
  constructor
  · have less : 2 ^ (52 : Nat) * size < (rounded + 1) * size := by
      rw [Nat.add_mul]
      omega
    exact Nat.le_of_lt_succ (Nat.lt_of_mul_lt_mul_right less)
  · have less : rounded * size < (2 ^ (53 : Nat) + 1) * size := by
      rw [Nat.add_mul]
      omega
    exact Nat.le_of_lt_succ (Nat.lt_of_mul_lt_mul_right less)

/-- The double of a whole number with more than 53 bits is the nearest multiple of the power of two
that there is no room for, a tie going to the even multiple. -/
theorem shape_ofNat_of_large (atLeast : 2 ^ (53 + more) ≤ number)
    (below : number < 2 ^ (54 + more)) (finite : more < 900) :
    ∃ digits exponent, shape (ofNat number) = .finite false digits exponent ∧ 0 < digits ∧
      0 ≤ exponent ∧ digits * 2 ^ exponent.toNat =
        Rounding.nearest .toEven number (2 ^ (more + 1)) * 2 ^ (more + 1) := by
  have significand : scaledSignificand number 1 (more + 1) =
      Rounding.nearest .toEven number (2 ^ (more + 1)) := by
    have none : (-((more : Int) + 1)).toNat = 0 := by omega
    have all : ((more : Int) + 1).toNat = more + 1 := by omega
    rw [scaledSignificand, none, all, Nat.pow_zero, Nat.mul_one, Nat.one_mul]
  rcases nearest_of_large atLeast below with ⟨enough, few⟩
  have notZero : number ≠ 0 := Nat.ne_of_gt (Nat.lt_of_lt_of_le (Nat.two_pow_pos _) atLeast)
  have field : ((more : Int) + 1 - minExponent).toNat = more + 1076 - 1 := by
    rw [minExponent]
    omega
  have fieldPositive : 0 < more + 1076 := by omega
  rcases shapeOfBits_carry fieldPositive (by omega) enough few with
    ⟨digits, exponent, shaped, smallest, positive, same⟩
  generalize Rounding.nearest .toEven number (2 ^ (more + 1)) = rounded at *
  have notInfinite : ¬2047 * 2 ^ (52 : Nat) ≤ (more + 1076 - 1) * 2 ^ (52 : Nat) + rounded := by
    omega
  refine ⟨digits, exponent, ?_, positive, by omega, ?_⟩
  · rw [ofNat, nearest, if_neg notZero, scaleExponent_of_large atLeast below]
    dsimp only
    rw [significand, field, if_neg notInfinite,
      shape_ofMagnitudeBits (Nat.lt_of_not_le notInfinite), shaped]
  · have split : exponent.toNat =
        (exponent - (((more + 1076 : Nat) : Int) - 1075)).toNat + (more + 1) := by omega
    rw [split, Nat.pow_add, ← Nat.mul_assoc, same]

end GroupedReport.Binary64
