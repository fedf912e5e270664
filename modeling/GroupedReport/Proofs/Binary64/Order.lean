import GroupedReport.Binary64.Order
import GroupedReport.Decimal.Binary64
import GroupedReport.Proofs.Binary64.Identity

/-!
# The order of doubles is total but for missing ones

Two doubles have an order unless one of them is not a number. Numbers of other kinds become doubles
that are numbers, so they have an order with every double that is one.
-/

namespace GroupedReport.Binary64

open Float.Model (Format UnpackedFloat)
open Float.Model.UnpackedFloat hiding pack unpack isNaN

-- Powers are those of the core library, whatever else is imported.
attribute [local instance (high)] instPowNat

/-! ## Signs -/

/-- The sign of a double, which is all that is missing if it is not a number. -/
def sign? : UnpackedFloat → Option Sign
  | .notANumber => none
  | .infinity sign | .zero sign | .finite sign _ _ _ => some sign

theorem isNaN_eq (value : Float) : value.isNaN = (sign? (unpacked value)).isNone := by
  change (unpacked value).isNaN = _
  cases unpacked value <;> rfl

theorem unpackSign_packComponents {spec : Format} (sign : Sign)
    (exponent : BitVec spec.exponentBits) (mantissa : BitVec spec.mantissaBitsWithoutImplicit) :
    unpackSign (packComponents spec sign exponent mantissa) = sign.toBitVec := by
  apply BitVec.eq_of_getLsbD_eq
  intro position inside
  cases Nat.lt_one_iff.mp inside
  simp [unpackSign, packComponents, BitVec.getLsbD_append, BitVec.getElem_append]

theorem toNat_unpackMantissa (bits : BitVec Format.binary64.numBits) :
    (unpackMantissa bits).toNat = bits.toNat % 2 ^ (52 : Nat) := by
  rw [unpackMantissa, BitVec.toNat_cast, BitVec.extractLsb_toNat, Nat.shiftRight_zero]
  rfl

theorem toNat_unpackSign (bits : BitVec Format.binary64.numBits) :
    (unpackSign bits).toNat = bits.toNat / 2 ^ (63 : Nat) % 2 := by
  rw [unpackSign, BitVec.toNat_cast, BitVec.extractLsb_toNat, Nat.shiftRight_eq_div_pow]
  rfl

theorem ofBitVec_toBitVec (sign : Sign) : Sign.ofBitVec sign.toBitVec = sign := by
  cases sign <;> rfl

theorem sign?_unpack (bits : BitVec Format.binary64.numBits) :
    sign? (UnpackedFloat.unpack Format.binary64 bits) =
      if unpackExponent bits = -1#11 ∧ unpackMantissa bits ≠ 0#52 then none
      else some (Sign.ofBitVec (unpackSign bits)) := by
  simp only [UnpackedFloat.unpack]
  by_cases largest : unpackExponent bits = -1#11
  · rw [if_pos largest]
    by_cases fraction : unpackMantissa bits = 0#52
    · rw [if_pos fraction, if_neg (fun both => both.2 fraction)]
      rfl
    · rw [if_neg fraction, if_pos ⟨largest, fraction⟩]
      rfl
  · have isNumber : ¬(unpackExponent bits = -1#11 ∧ unpackMantissa bits ≠ 0#52) :=
      fun both => largest both.1
    rw [if_neg largest, if_neg isNumber]
    by_cases least : unpackExponent bits = 0#11
    · rw [if_pos least]
      by_cases fraction : unpackMantissa bits = 0#52
      · rw [dif_pos fraction]
        rfl
      · rw [dif_neg fraction]
        rfl
    · rw [if_neg least]
      rfl

theorem sign?_packComponents (sign : Sign) (exponent : BitVec Format.binary64.exponentBits)
    (mantissa : BitVec Format.binary64.mantissaBitsWithoutImplicit)
    (isNumber : exponent = -1#11 → mantissa = 0#52) :
    sign? (UnpackedFloat.unpack Format.binary64
      (packComponents Format.binary64 sign exponent mantissa)) = some sign := by
  rw [sign?_unpack, unpackExponent_packComponents, unpackMantissa_packComponents,
    unpackSign_packComponents, ofBitVec_toBitVec, if_neg]
  exact fun both => both.2 (isNumber both.1)

theorem sign?_pack (value : UnpackedFloat) :
    sign? (UnpackedFloat.unpack Format.binary64 (UnpackedFloat.pack Format.binary64 value)) =
      sign? value := by
  cases value with
  | notANumber => rfl
  | infinity sign => exact sign?_packComponents sign _ _ fun _ => rfl
  | zero sign => exact sign?_packComponents sign _ _ fun _ => rfl
  | finite sign significand exponent positive =>
      rw [UnpackedFloat.pack]
      dsimp only
      split
      · exact sign?_packComponents sign _ _ fun _ => rfl
      · rename_i small
        split
        · apply sign?_packComponents
          intro largest
          have field := congrArg BitVec.toNat largest
          rw [BitVec.toNat_ofNat, BitVec.toNat_neg] at field
          change ¬2048 ≤ _ at small
          change _ % 2048 = 2047 at field
          omega
        · apply sign?_packComponents
          intro largest
          exact absurd largest (by decide)

theorem sign?_ofModel (value : UnpackedFloat) :
    sign? (unpacked (Float.ofModel (.pack value))) = sign? value :=
  sign?_pack value

def signOf (negative : Bool) : Sign :=
  if negative then .negative else .positive

theorem sign?_unpack_of_small {negative : Bool} {bits : Nat}
    {vector : BitVec Format.binary64.numBits} (small : bits ≤ 2047 * 2 ^ (52 : Nat))
    (value : vector.toNat = (if negative then 2 ^ (63 : Nat) else 0) + bits) :
    sign? (UnpackedFloat.unpack Format.binary64 vector) = some (signOf negative) := by
  have isNumber : ¬(unpackExponent vector = -1#11 ∧ unpackMantissa vector ≠ 0#52) := by
    rintro ⟨largest, fraction⟩
    apply fraction
    have field := congrArg BitVec.toNat largest
    rw [toNat_unpackExponent, value] at field
    change _ = 2047 at field
    apply BitVec.eq_of_toNat_eq
    rw [toNat_unpackMantissa, value]
    change _ = 0
    cases negative <;> simp at field ⊢ <;> omega
  have sign : unpackSign vector = (signOf negative).toBitVec := by
    apply BitVec.eq_of_toNat_eq
    rw [toNat_unpackSign, value]
    cases negative <;> simp [signOf, Sign.toBitVec] <;> omega
  rw [sign?_unpack, if_neg isNumber, sign, ofBitVec_toBitVec]

theorem sign?_ofMagnitudeBits (negative : Bool) {bits : Nat}
    (small : bits ≤ 2047 * 2 ^ (52 : Nat)) :
    sign? (unpacked (ofMagnitudeBits negative bits)) = some (signOf negative) := by
  refine (sign?_ofModel _).trans (sign?_unpack_of_small small ?_)
  change ((if negative then 2 ^ (63 : Nat) else 0) + bits) % 2 ^ (64 : Nat) = _
  cases negative <;> simp <;> omega

theorem sign?_nearest (negative : Bool) (numerator denominator : Nat) :
    sign? (unpacked (nearest negative numerator denominator)) = some (signOf negative) := by
  rw [nearest]
  split
  · exact sign?_ofMagnitudeBits negative (Nat.zero_le _)
  · dsimp only
    split
    · exact sign?_ofMagnitudeBits negative (Nat.le_refl _)
    · rename_i small
      exact sign?_ofMagnitudeBits negative (Nat.le_of_lt (Nat.lt_of_not_le small))

theorem sign?_roundUp {value : Float} {sign : Sign}
    (isNumber : sign? (unpacked value) = some sign) :
    (sign? (unpacked (roundUp value))).isSome = true := by
  rw [roundUp]
  split
  · rw [sign?_nearest]
    rfl
  · rw [isNumber]
    rfl

/-! ## Operations -/

theorem sign?_roundWithAccuracy (spec : Format) (sign : Sign) (significand : Nat) (exponent : Int)
    (accuracy : Accuracy) :
    sign? (roundWithAccuracy spec sign significand exponent accuracy) = some sign := by
  rw [roundWithAccuracy]
  dsimp only
  split <;> rfl

theorem sign?_normalize (spec : Format) (significand exponent : Int) (zeroSign : Sign) :
    (sign? (normalize spec significand exponent zeroSign)).isSome = true := by
  rw [UnpackedFloat.normalize]
  split
  · rw [UnpackedFloat.round]
    dsimp only
    rw [sign?_roundWithAccuracy]
    rfl
  · rfl
  · rw [UnpackedFloat.round]
    dsimp only
    rw [sign?_roundWithAccuracy]
    rfl

def isFinitePositive : UnpackedFloat → Bool
  | .finite .positive _ _ _ => true
  | _ => false

theorem eq_finite_of_isFinitePositive {value : UnpackedFloat}
    (unit : isFinitePositive value = true) :
    ∃ significand exponent positive, value = .finite .positive significand exponent positive := by
  cases value with
  | notANumber | infinity | zero => cases unit
  | finite sign significand exponent positive =>
      cases sign with
      | negative => cases unit
      | positive => exact ⟨significand, exponent, positive, rfl⟩

variable {left right : Float}

theorem sign?_divide (unit : isFinitePositive (unpacked right) = true) :
    sign? (unpacked (left / right)) = sign? (unpacked left) := by
  change sign? (unpacked (Float.ofModel (.pack (UnpackedFloat.div _ (unpacked left)
    (unpacked right))))) = _
  rw [sign?_ofModel]
  generalize unpacked left = left
  generalize unpacked right = right at unit
  rcases eq_finite_of_isFinitePositive unit with ⟨significand, exponent, positive, rfl⟩
  have same (sign : Sign) : sign / .positive = sign := by cases sign <;> rfl
  cases left with
  | notANumber => rfl
  | infinity sign | zero sign => exact congrArg some (same sign)
  | finite => exact (sign?_roundWithAccuracy ..).trans (congrArg some (same _))

theorem sign?_multiply (unit : isFinitePositive (unpacked right) = true) :
    sign? (unpacked (left * right)) = sign? (unpacked left) := by
  change sign? (unpacked (Float.ofModel (.pack (UnpackedFloat.mul _ (unpacked left)
    (unpacked right))))) = _
  rw [sign?_ofModel]
  generalize unpacked left = left
  generalize unpacked right = right at unit
  rcases eq_finite_of_isFinitePositive unit with ⟨significand, exponent, positive, rfl⟩
  have same (sign : Sign) : sign * .positive = sign := by cases sign <;> rfl
  cases left with
  | notANumber => rfl
  | infinity sign | zero sign => exact congrArg some (same sign)
  | finite => exact (sign?_roundWithAccuracy ..).trans (congrArg some (same _))

theorem sign?_add (leftPositive : sign? (unpacked left) = some .positive)
    (rightPositive : sign? (unpacked right) = some .positive) :
    (sign? (unpacked (left + right))).isSome = true := by
  change (sign? (unpacked (Float.ofModel (.pack (UnpackedFloat.add _ (unpacked left)
    (unpacked right)))))).isSome = _
  rw [sign?_ofModel]
  generalize unpacked left = left at leftPositive
  generalize unpacked right = right at rightPositive
  cases left <;> cases leftPositive <;> cases right <;> cases rightPositive <;>
    first | rfl | exact sign?_normalize ..

theorem sign?_negate (value : Float) :
    (sign? (unpacked (-value))).isSome = (sign? (unpacked value)).isSome := by
  change (sign? (unpacked (Float.ofModel (.pack (unpacked value).neg)))).isSome = _
  rw [sign?_ofModel]
  cases unpacked value <;> rfl

/-! ## Order -/

theorem compare_swap (left right : UnpackedFloat) :
    right.compare left = (left.compare right).map Ordering.swap := by
  cases left <;> cases right
  case finite.finite leftSign leftSignificand leftExponent _ rightSign rightSignificand
      rightExponent _ =>
    have exponents : compare rightExponent leftExponent =
        (compare leftExponent rightExponent).swap := Std.OrientedCmp.eq_swap
    have significands : compare rightSignificand leftSignificand =
        (compare leftSignificand rightSignificand).swap := Std.OrientedCmp.eq_swap
    cases leftSign <;> cases rightSign <;>
      simp [UnpackedFloat.compare, exponents, significands, Ordering.swap_then]
  case infinity.infinity leftSign rightSign => cases leftSign <;> cases rightSign <;> rfl
  case infinity.zero sign _ => cases sign <;> rfl
  case infinity.finite sign _ _ _ _ => cases sign <;> rfl
  case zero.infinity _ sign => cases sign <;> rfl
  case zero.finite _ sign _ _ _ => cases sign <;> rfl
  case finite.infinity _ _ _ _ sign => cases sign <;> rfl
  case finite.zero sign _ _ _ _ => cases sign <;> rfl
  all_goals rfl

theorem compare_eq_none_iff {left right : UnpackedFloat} :
    left.compare right = none ↔ sign? left = none ∨ sign? right = none := by
  cases left <;> cases right
  case finite.finite leftSign _ _ _ rightSign _ _ _ =>
    cases leftSign <;> cases rightSign <;> simp [UnpackedFloat.compare, sign?]
  case infinity.infinity => simp [UnpackedFloat.compare, sign?]
  case infinity.zero sign _ => cases sign <;> simp [UnpackedFloat.compare, sign?]
  case infinity.finite sign _ _ _ _ => cases sign <;> simp [UnpackedFloat.compare, sign?]
  case zero.infinity _ sign => cases sign <;> simp [UnpackedFloat.compare, sign?]
  case zero.finite _ sign _ _ _ => cases sign <;> simp [UnpackedFloat.compare, sign?]
  case finite.infinity _ _ _ _ sign => cases sign <;> simp [UnpackedFloat.compare, sign?]
  case finite.zero sign _ _ _ _ => cases sign <;> simp [UnpackedFloat.compare, sign?]
  all_goals simp [UnpackedFloat.compare, sign?]

theorem compare?_eq (left right : Float) :
    compare? left right = (unpacked left).compare (unpacked right) := by
  have less (first second : Float) :
      first < second ↔ (unpacked first).compare (unpacked second) = some .lt := by
    change decide ((unpacked first).lt (unpacked second) = true) = true ↔ _
    rw [decide_eq_true_eq, UnpackedFloat.lt, beq_iff_eq]
  have equal : (left == right) = true ↔ (unpacked left).compare (unpacked right) = some .eq := by
    change (unpacked left).beq (unpacked right) = true ↔ _
    rw [UnpackedFloat.beq, beq_iff_eq]
  rw [compare?]
  simp only [less, equal, compare_swap (unpacked left) (unpacked right)]
  rcases (unpacked left).compare (unpacked right) with _ | order
  · rfl
  · cases order <;> rfl

theorem compare?_eq_none_iff {left right : Float} :
    compare? left right = none ↔ left.isNaN = true ∨ right.isNaN = true := by
  rw [compare?_eq, compare_eq_none_iff, isNaN_eq, isNaN_eq, Option.isNone_iff_eq_none,
    Option.isNone_iff_eq_none]

/-! ## Numbers of other kinds -/

theorem isNaN_ofInt (number : Int) : (ofInt number).isNaN = false := by
  rw [isNaN_eq, ofInt, sign?_nearest]
  rfl

theorem isFinitePositive_scale :
    ∀ scale : Fin 29, isFinitePositive (unpacked (ofNat (10 ^ scale.val))) = true := by
  decide +kernel

end GroupedReport.Binary64

namespace GroupedReport.Decimal

open Binary64

-- Powers are those of the core library, whatever else is imported.
attribute [local instance (high)] instPowNat

theorem sign?_magnitudeToFloat (coefficient : Nat) {scale : Nat} (scaleLe : scale ≤ 28) :
    (sign? (unpacked (magnitudeToFloat coefficient scale))).isSome = true := by
  have unit := isFinitePositive_scale ⟨scale, Nat.lt_succ_of_le scaleLe⟩
  have whole (number : Nat) : sign? (unpacked (ofNat number)) = some .positive :=
    sign?_nearest false number 1
  rw [magnitudeToFloat]
  dsimp only
  split
  · rw [whole]
    rfl
  · have fraction : sign? (unpacked (ofNat (coefficient % 10 ^ scale) / ofNat (10 ^ scale))) =
        some .positive := (sign?_divide unit).trans (whole _)
    rw [sign?_divide unit]
    rcases Option.isSome_iff_exists.mp (sign?_add (whole (coefficient / 10 ^ scale)) fraction) with
      ⟨sign, isNumber⟩
    exact sign?_roundUp ((sign?_multiply unit).trans isNumber)

theorem isNaN_toFloat (value : Decimal) : value.toFloat.isNaN = false := by
  rw [toFloat]
  split
  · exact isNaN_ofInt _
  · have isNumber := sign?_magnitudeToFloat value.coefficient value.scale_le
    dsimp only
    rw [isNaN_eq]
    split
    · rw [← Option.not_isSome, sign?_negate, isNumber]
      rfl
    · rw [← Option.not_isSome, isNumber]
      rfl

end GroupedReport.Decimal
