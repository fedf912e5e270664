import GroupedReport.Binary64.Basic
import Mathlib

/-!
# Operations that change nothing

A double plus or minus a zero of the right sign is the double, and so is a double times or divided
by one. Arithmetic takes doubles apart, so this needs two facts: putting a double together again
gives the double, and rounding a number that has the precision of a double gives the number.
-/

namespace GroupedReport.Binary64

open Float.Model (Format UnpackedFloat totalExponent)
open Float.Model.UnpackedFloat hiding pack unpack

-- Powers are those of the core library, whatever else is imported.
attribute [local instance (high)] instPowNat

/-! ## Taking apart and putting together -/

theorem toBitVec_ofBitVec (bit : BitVec 1) : (Sign.ofBitVec bit).toBitVec = bit := by
  revert bit
  decide

theorem packComponents_unpack (bits : BitVec Format.binary64.numBits) :
    packComponents Format.binary64 (Sign.ofBitVec (unpackSign bits)) (unpackExponent bits)
      (unpackMantissa bits) = bits := by
  rw [packComponents, toBitVec_ofBitVec]
  apply BitVec.eq_of_getElem_eq
  intro position inside
  simp only [unpackSign, unpackExponent, unpackMantissa, BitVec.extractLsb,
    BitVec.getElem_append, BitVec.getElem_cast, BitVec.getElem_extractLsb']
  rw [← BitVec.getLsbD_eq_getElem inside]
  split
  · rw [Nat.zero_add]
  · split
    · congr 1
      omega
    · congr 1
      omega

theorem toNat_unpackExponent (bits : BitVec Format.binary64.numBits) :
    (unpackExponent bits).toNat = bits.toNat / 2 ^ (52 : Nat) % 2 ^ (11 : Nat) := by
  rw [unpackExponent, BitVec.toNat_cast, BitVec.extractLsb_toNat, Nat.shiftRight_eq_div_pow]
  rfl

/-- The significand and the exponent of a finite double. -/
structure Canonical (significand : Nat) (exponent : Int) : Prop where
  below : significand < 2 ^ (53 : Nat)
  least : minExponent ≤ exponent
  full : significand < 2 ^ (52 : Nat) → exponent = minExponent

section

variable {sign : Sign} {significand : Nat} {positive : 0 < significand}

theorem log2_of_full (atLeast : 2 ^ (52 : Nat) ≤ significand)
    (below : significand < 2 ^ (53 : Nat)) : significand.log2 = 52 := by
  have notZero : significand ≠ 0 := by omega
  have low := (Nat.le_log2 notZero).mpr atLeast
  have high := (Nat.log2_lt notZero).mpr below
  omega

theorem pack_subnormal (below : significand < 2 ^ (52 : Nat)) :
    UnpackedFloat.pack Format.binary64 (.finite sign significand minExponent positive) =
      packComponents Format.binary64 sign 0#_ (BitVec.ofNat _ significand) := by
  have few : significand.log2 + 1 ≠ Format.binary64.mantissaBits := by
    have := (Nat.log2_lt (Nat.ne_of_gt positive)).mpr below
    change significand.log2 + 1 ≠ 53
    omega
  rw [UnpackedFloat.pack]
  exact (if_neg (by decide)).trans (if_neg few)

theorem pack_normal {biased : Nat} (small : biased < 2047)
    (atLeast : 2 ^ (52 : Nat) ≤ significand) (below : significand < 2 ^ (53 : Nat)) :
    UnpackedFloat.pack Format.binary64 (.finite sign significand ((biased : Int) - 1075) positive) =
      packComponents Format.binary64 sign (BitVec.ofNat _ biased) (BitVec.ofNat _ significand) := by
  have bias : (((biased : Int) - 1075) + Format.binary64.exponentBias +
      Format.binary64.mantissaBitsWithoutImplicit).toNat = biased := by
    change (((biased : Int) - 1075) + 1023 + 52).toNat = biased
    omega
  have fits : ¬2 ^ Format.binary64.exponentBits ≤ biased + 1 := by
    change ¬2048 ≤ biased + 1
    omega
  have full : significand.log2 + 1 = Format.binary64.mantissaBits := by
    rw [log2_of_full atLeast below]
    rfl
  rw [UnpackedFloat.pack]
  dsimp only
  rw [bias]
  exact (if_neg fits).trans (if_pos full)

end

theorem toNat_leadingBit (fraction : BitVec 52) :
    (1#1 ++ fraction).toNat = 2 ^ (52 : Nat) + fraction.toNat := by
  rw [BitVec.toNat_append, ← Nat.shiftLeft_add_eq_or_of_lt fraction.isLt]
  rfl

theorem le_leadingBit (fraction : BitVec 52) : 2 ^ (52 : Nat) ≤ (1#1 ++ fraction).toNat := by
  rw [toNat_leadingBit]
  exact Nat.le_add_right _ _

theorem leadingBit_lt (fraction : BitVec 52) : (1#1 ++ fraction).toNat < 2 ^ (53 : Nat) := by
  have small := fraction.isLt
  rw [toNat_leadingBit]
  omega

theorem ofNat_leadingBit (fraction : BitVec 52) :
    BitVec.ofNat 52 (1#1 ++ fraction).toNat = fraction := by
  apply BitVec.eq_of_toNat_eq
  rw [toNat_leadingBit, BitVec.toNat_ofNat, Nat.add_mod_left, Nat.mod_eq_of_lt fraction.isLt]

theorem pack_unpack_and_canonical {bits : BitVec Format.binary64.numBits}
    (valid : Format.binary64.Valid bits) :
    UnpackedFloat.pack Format.binary64 (UnpackedFloat.unpack Format.binary64 bits) = bits ∧
      ∀ sign significand exponent positive,
        UnpackedFloat.unpack Format.binary64 bits = .finite sign significand exponent positive →
          Canonical significand exponent := by
  have whole := packComponents_unpack bits
  have small := (unpackExponent bits).isLt
  have fraction := (unpackMantissa bits).isLt
  rw [UnpackedFloat.unpack]
  dsimp only
  split
  · rename_i infiniteOrNot
    split
    · rename_i infinite
      rw [infiniteOrNot, infinite] at whole
      refine ⟨whole, ?_⟩
      intro _ _ _ _ equal
      cases equal
    · rename_i notANumber
      refine ⟨(valid.eq_packedNaN infiniteOrNot notANumber).symm, ?_⟩
      intro _ _ _ _ equal
      cases equal
  · rename_i finite
    split
    · rename_i zeroExponent
      split
      · rename_i zeroMantissa
        rw [zeroExponent, zeroMantissa] at whole
        refine ⟨whole, ?_⟩
        intro _ _ _ _ equal
        cases equal
      · -- A subnormal double: its bits are its significand, and its exponent is the least one.
        have exponentIsZero : (unpackExponent bits).toNat = 0 := by
          rw [zeroExponent]
          rfl
        have exponent : ((unpackExponent bits).toNat : Int) -
            (Format.binary64.exponentBias + Format.binary64.mantissaBitsWithoutImplicit) + 1 =
              minExponent := by
          rw [exponentIsZero]
          rfl
        rw [zeroExponent] at whole
        constructor
        · simp only [exponent]
          rw [pack_subnormal fraction, BitVec.ofNat_toNat, BitVec.setWidth_eq]
          exact whole
        · intro sign significand _ positive equal
          cases equal
          exact ⟨Nat.lt_trans fraction (by decide), Int.le_of_eq exponent.symm, fun _ => exponent⟩
    · -- A normal double: its significand has a leading bit that is not among its bits.
      rename_i notZero
      have atLeast := le_leadingBit (unpackMantissa bits)
      have below := leadingBit_lt (unpackMantissa bits)
      have biased : (unpackExponent bits).toNat < 2047 := by
        have notAllOnes : (unpackExponent bits).toNat ≠ 2047 :=
          fun same => finite (BitVec.eq_of_toNat_eq same)
        change (unpackExponent bits).toNat < 2048 at small
        omega
      have nonzero : (unpackExponent bits).toNat ≠ 0 :=
        fun same => notZero (BitVec.eq_of_toNat_eq same)
      have exponent : ((unpackExponent bits).toNat : Int) -
          (Format.binary64.exponentBias + Format.binary64.mantissaBitsWithoutImplicit) =
            ((unpackExponent bits).toNat : Int) - 1075 := rfl
      constructor
      · simp only [exponent]
        rw [pack_normal biased atLeast below, BitVec.ofNat_toNat, BitVec.setWidth_eq]
        exact (congrArg _ (ofNat_leadingBit (unpackMantissa bits))).trans whole
      · intro sign _ _ positive equal
        cases equal
        refine ⟨below, ?_, fun less => absurd atLeast (Nat.not_le_of_lt less)⟩
        rw [exponent, minExponent]
        omega

/-! ## Rounding -/

theorem targetExponent_eq (total : Int) :
    Format.binary64.targetExponent total = max (total - 53) minExponent := rfl

theorem Canonical.targetExponent {significand : Nat} {exponent : Int}
    (canonical : Canonical significand exponent) (positive : 0 < significand) :
    Format.binary64.targetExponent (totalExponent significand exponent) = exponent := by
  rcases canonical with ⟨below, least, full⟩
  rw [targetExponent_eq, totalExponent]
  by_cases subnormal : significand < 2 ^ (52 : Nat)
  · have few := (Nat.log2_lt (Nat.ne_of_gt positive)).mpr subnormal
    have exponentEqual := full subnormal
    omega
  · have log2 := log2_of_full (Nat.le_of_not_lt subnormal) below
    omega

theorem log2_mul_pow {number : Nat} (positive : 0 < number) (count : Nat) :
    (number * 2 ^ count).log2 = number.log2 + count := by
  induction count with
  | zero => rw [Nat.pow_zero, Nat.mul_one, Nat.add_zero]
  | succ count induction =>
      have notZero : number * 2 ^ count ≠ 0 :=
        Nat.ne_of_gt (Nat.mul_pos positive (Nat.pow_pos (by decide)))
      rw [Nat.pow_succ, ← Nat.mul_assoc, Nat.mul_comm _ 2, Nat.log2_two_mul notZero, induction,
        Nat.add_assoc]

theorem shiftRight_mul_pow (significand count : Nat) :
    (⟨significand * 2 ^ count, false, false⟩ : ExtendedMantissa) >>> count =
      ⟨significand, false, false⟩ := by
  induction count generalizing significand with
  | zero =>
      rw [Nat.pow_zero, Nat.mul_one]
      rfl
  | succ count induction =>
      have shifted := induction (significand * 2)
      change ExtendedMantissa.shiftRightOne
        ((⟨significand * 2 ^ (count + 1), false, false⟩ : ExtendedMantissa) >>> count) = _
      rw [Nat.pow_succ, Nat.mul_comm (2 ^ count), ← Nat.mul_assoc, shifted,
        ExtendedMantissa.shiftRightOne]
      simp only [Nat.mul_div_cancel _ (Nat.succ_pos 1), Nat.mul_mod_left, bne_self_eq_false,
        Bool.or_self]

/-- Rounding a double that was written with more digits gives the double. -/
theorem roundWithAccuracy_exact {significand : Nat} {exponent : Int}
    (canonical : Canonical significand exponent) (sign : Sign) (positive : 0 < significand)
    (count : Nat) :
    roundWithAccuracy Format.binary64 sign (significand * 2 ^ count) (exponent - count) .exact =
      .finite sign significand exponent positive := by
  have target := canonical.targetExponent positive
  have total : totalExponent (significand * 2 ^ count) (exponent - count) =
      totalExponent significand exponent := by
    rw [totalExponent, totalExponent, log2_mul_pow positive]
    omega
  -- The first shift takes the appended digits away again, and the second one has nothing to do.
  have first : shiftToTargetExponent Format.binary64 (significand * 2 ^ count) (exponent - count)
      .exact = (⟨significand, false, false⟩, exponent) := by
    have amount : (exponent - (exponent - (count : Int))).toNat = count := by omega
    rw [shiftToTargetExponent, total, target, shiftToExponent, amount]
    exact Prod.ext (shiftRight_mul_pow significand count) (Int.sub_add_cancel exponent count)
  have second : shiftToTargetExponent Format.binary64 significand exponent .exact =
      (⟨significand, false, false⟩, exponent) := by
    rw [shiftToTargetExponent, target, shiftToExponent, Int.sub_self]
    exact Prod.ext rfl (Int.add_zero exponent)
  rw [roundWithAccuracy, first]
  change (let final := shiftToTargetExponent Format.binary64 significand exponent .exact
    if zero : final.1.mantissa = 0 then UnpackedFloat.zero sign
    else .finite sign final.1.mantissa final.2 (Nat.pos_of_ne_zero zero)) = _
  rw [second]
  exact dif_neg (Nat.ne_of_gt positive)

/-! ## Zero and one -/

def unpacked (value : Float) : UnpackedFloat :=
  value.toModel.unpack

theorem ofModel_pack {value : Float} {result : UnpackedFloat} (same : result = unpacked value) :
    Float.ofModel (Float.Model.pack result) = value := by
  have bits := (pack_unpack_and_canonical value.toModel.valid).1
  rw [same]
  change Float.ofModel ⟨UInt64.ofBitVec (UnpackedFloat.pack Format.binary64
    (UnpackedFloat.unpack Format.binary64 value.toModel.toBits.toBitVec)), _⟩ = value
  simp only [bits]

theorem canonical_of_unpacked {value : Float} {sign : Sign} {significand : Nat} {exponent : Int}
    {positive : 0 < significand}
    (equal : unpacked value = .finite sign significand exponent positive) :
    Canonical significand exponent :=
  (pack_unpack_and_canonical value.toModel.valid).2 sign significand exponent positive equal

theorem eq_of_unpacked_eq {left right : Float} (equal : unpacked left = unpacked right) :
    left = right :=
  (ofModel_pack equal.symm).symm.trans (ofModel_pack rfl)

theorem unpacked_zero (negative : Bool) :
    unpacked (zero negative) = .zero (if negative then .negative else .positive) := by
  cases negative <;> rfl

theorem unpacked_one :
    unpacked (ofNat 1) = .finite .positive (2 ^ (52 : Nat)) (-52) (by decide) := by
  rfl

theorem isNegative_zero (negative : Bool) : isNegative (zero negative) = negative := by
  cases negative <;> rfl

theorem eq_zero_of_beq {value : Float} (equal : (value == zero false) = true) :
    value = zero (isNegative value) := by
  change (unpacked value).beq (unpacked (zero false)) = true at equal
  rw [unpacked_zero] at equal
  have either : ∃ negative, value = zero negative := by
    cases whole : unpacked value with
    | notANumber =>
        rw [whole] at equal
        cases equal
    | infinity sign =>
        rw [whole] at equal
        cases sign <;> cases equal
    | finite sign significand exponent positive =>
        rw [whole] at equal
        cases sign <;> cases equal
    | zero sign =>
        cases sign with
        | negative => exact ⟨true, eq_of_unpacked_eq (whole.trans (unpacked_zero true).symm)⟩
        | positive => exact ⟨false, eq_of_unpacked_eq (whole.trans (unpacked_zero false).symm)⟩
  rcases either with ⟨negative, rfl⟩
  rw [isNegative_zero]

theorem eq_one_of_beq {value : Float} (equal : (value == ofNat 1) = true) : value = ofNat 1 := by
  change (unpacked value).beq (unpacked (ofNat 1)) = true at equal
  rw [unpacked_one] at equal
  apply eq_of_unpacked_eq
  rw [unpacked_one]
  cases whole : unpacked value with
  | notANumber =>
      rw [whole] at equal
      cases equal
  | infinity sign =>
      rw [whole] at equal
      cases sign <;> cases equal
  | zero sign =>
      rw [whole] at equal
      cases equal
  | finite sign significand exponent positive =>
      rw [whole] at equal
      cases sign with
      | negative => cases equal
      | positive =>
          have ordered :
              (compare exponent (-52)).then (compare significand (2 ^ (52 : Nat))) = .eq :=
            Option.some.inj (eq_of_beq equal)
          rcases Ordering.then_eq_eq.mp ordered with ⟨exponentEqual, significandEqual⟩
          cases Std.LawfulEqCmp.eq_of_compare exponentEqual
          cases Std.LawfulEqCmp.eq_of_compare significandEqual
          rfl

/-! ## Identities -/

variable (value : Float)

theorem add_negativeZero : value + zero true = value := by
  apply ofModel_pack
  change UnpackedFloat.add Format.binary64 (unpacked value) (unpacked (zero true)) = _
  rw [unpacked_zero]
  cases unpacked value with
  | notANumber | infinity | finite => rfl
  | zero sign => cases sign <;> rfl

theorem negativeZero_add : zero true + value = value := by
  apply ofModel_pack
  change UnpackedFloat.add Format.binary64 (unpacked (zero true)) (unpacked value) = _
  rw [unpacked_zero]
  cases unpacked value with
  | notANumber | infinity | finite => rfl
  | zero sign => cases sign <;> rfl

theorem subtract_positiveZero : value - zero false = value := by
  apply ofModel_pack
  change UnpackedFloat.sub Format.binary64 (unpacked value) (unpacked (zero false)) = _
  rw [unpacked_zero]
  cases unpacked value with
  | notANumber | infinity | finite => rfl
  | zero sign => cases sign <;> rfl

theorem multiply_one : value * ofNat 1 = value := by
  apply ofModel_pack
  change UnpackedFloat.mul Format.binary64 (unpacked value) (unpacked (ofNat 1)) = _
  rw [unpacked_one]
  cases whole : unpacked value with
  | notANumber => rfl
  | infinity sign | zero sign => cases sign <;> rfl
  | finite sign significand exponent positive =>
      have rounded := roundWithAccuracy_exact (canonical_of_unpacked whole) sign positive 52
      cases sign <;> exact rounded

theorem one_multiply : ofNat 1 * value = value := by
  apply ofModel_pack
  change UnpackedFloat.mul Format.binary64 (unpacked (ofNat 1)) (unpacked value) = _
  rw [unpacked_one]
  cases whole : unpacked value with
  | notANumber => rfl
  | infinity sign | zero sign => cases sign <;> rfl
  | finite sign significand exponent positive =>
      have rounded := roundWithAccuracy_exact (canonical_of_unpacked whole) sign positive 52
      rw [Nat.mul_comm, Int.sub_eq_add_neg, Int.add_comm] at rounded
      cases sign <;> exact rounded

theorem divCore_one {significand : Nat} {exponent : Int}
    (canonical : Canonical significand exponent) (positive : 0 < significand) :
    ∃ count : Nat, divCore Format.binary64 significand exponent (2 ^ (52 : Nat)) (-52) =
      (significand * 2 ^ count, exponent - count, .exact) := by
  have aim := canonical.targetExponent positive
  have one : totalExponent (2 ^ (52 : Nat)) (-52) = 1 := by decide
  rw [targetExponent_eq] at aim
  rw [divCore, one, targetExponent_eq]
  generalize totalExponent significand exponent = total at aim
  have atMost : max (total - 1 - 53) minExponent ≤ exponent := by omega
  generalize max (total - 1 - 53) minExponent = target at atMost
  refine ⟨(exponent - target).toNat, ?_⟩
  have smaller : min (exponent - -52) target = target := by omega
  have amount : (exponent - -52 - target).toNat = (exponent - target).toNat + 52 := by omega
  have exponentEqual : target = exponent - (exponent - target).toNat := by omega
  have digits : significand <<< ((exponent - target).toNat + 52) =
      significand * 2 ^ (exponent - target).toNat * 2 ^ (52 : Nat) := by
    rw [Nat.shiftLeft_eq, Nat.pow_add, ← Nat.mul_assoc]
  rw [smaller, amount, digits, Nat.mul_div_cancel _ (by decide), Nat.mul_mod_left,
    ← exponentEqual]
  rfl

theorem divide_one : value / ofNat 1 = value := by
  apply ofModel_pack
  change UnpackedFloat.div Format.binary64 (unpacked value) (unpacked (ofNat 1)) = _
  rw [unpacked_one]
  cases whole : unpacked value with
  | notANumber => rfl
  | infinity sign | zero sign => cases sign <;> rfl
  | finite sign significand exponent positive =>
      have canonical := canonical_of_unpacked whole
      rcases divCore_one canonical positive with ⟨count, quotient⟩
      have rounded := roundWithAccuracy_exact canonical sign positive count
      rw [UnpackedFloat.div, quotient]
      cases sign <;> exact rounded

end GroupedReport.Binary64
