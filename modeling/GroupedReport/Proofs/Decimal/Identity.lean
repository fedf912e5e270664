import GroupedReport.Operator.Apply
import GroupedReport.Proofs.Value.Same

/-!
# Identities of decimal arithmetic

A zero and a one can be written with places behind the point. Arithmetic with such a constant gives
back the number of its other operand, but not always the way it is written.
-/

namespace GroupedReport.Decimal

-- Powers are those of the core library, whatever else is imported.
attribute [local instance (high)] instPowNat

/-! ## The same number -/

theorem signed_mul (negative : Bool) (coefficient factor : Nat) :
    (if negative then -(coefficient : Int) else coefficient) * (factor : Int) =
      if negative then -((coefficient * factor : Nat) : Int) else (coefficient * factor : Nat) := by
  cases negative <;> simp

theorem sameNumber_of_coefficient {left right : Decimal} (negative : left.negative = right.negative)
    (equal : left.coefficient * 10 ^ right.scale = right.coefficient * 10 ^ left.scale) :
    left.sameNumber right = true := by
  have power (scale : Nat) : (10 : Int) ^ scale = ((10 ^ scale : Nat) : Int) :=
    (Int.natCast_pow 10 scale).symm
  rw [sameNumber, beq_iff_eq, signed, signed, power, power, signed_mul, signed_mul, equal, negative]

theorem sameNumber_refl (value : Decimal) : value.sameNumber value = true :=
  sameNumber_of_coefficient rfl rfl

theorem sameNumber_of_isZero {left right : Decimal} (leftZero : left.isZero = true)
    (rightZero : right.isZero = true) : left.sameNumber right = true := by
  have signed_of_isZero {value : Decimal} (zero : value.isZero = true) : value.signed = 0 := by
    rw [signed, eq_of_beq zero]
    exact ite_self _
  rw [sameNumber, signed_of_isZero leftZero, signed_of_isZero rightZero]
  simp

/-- Whether a decimal is one, with any number of places. -/
structure IsOne (identity : Decimal) : Prop where
  negative : identity.negative = false
  coefficient : identity.coefficient = 10 ^ identity.scale

theorem isOne_of_sameNumber {identity : Decimal} (same : identity.sameNumber .one = true) :
    identity.IsOne := by
  have equal : identity.signed = ((10 ^ identity.scale : Nat) : Int) := by
    have equal := eq_of_beq same
    rw [Int.natCast_pow]
    simpa [one, signed] using equal
  have positive : 0 < 10 ^ identity.scale := Nat.pow_pos (by decide)
  rw [signed] at equal
  cases negative : identity.negative with
  | true =>
      rw [negative, if_pos rfl] at equal
      omega
  | false =>
      rw [negative, if_neg Bool.false_ne_true] at equal
      exact ⟨negative, Int.ofNat.inj equal⟩

/-! ## Fitting -/

theorem surplus_le_iff {magnitude dropped : Nat} :
    surplus magnitude ≤ dropped ↔ magnitude / 10 ^ dropped < 2 ^ (96 : Nat) := by
  induction dropped generalizing magnitude with
  | zero =>
      rw [surplus]
      split <;> simp <;> omega
  | succ dropped induction =>
      rw [surplus]
      split
      · rename_i small
        have atMost := Nat.div_le_self magnitude (10 ^ (dropped + 1))
        simp only [Nat.zero_le, true_iff]
        omega
      · rw [Nat.add_le_add_iff_right, induction, Nat.div_div_eq_div_mul, ← Nat.pow_succ']

theorem dropDigits?_zeros (negative : Bool) {coefficient scale : Nat} (dropped : Nat)
    (fits : coefficient < 2 ^ (96 : Nat)) (scaleLe : scale ≤ 28) :
    dropDigits? negative (coefficient * 10 ^ dropped) (scale + dropped) dropped =
      some ⟨negative, coefficient, scale, fits, scaleLe⟩ := by
  have nearest :
      Rounding.nearest .toEven (coefficient * 10 ^ dropped) (10 ^ dropped) = coefficient :=
    Rounding.nearest_mul _ _ (Nat.pow_pos (by decide))
  simp only [dropDigits?, nearest, Nat.add_sub_cancel]
  exact dif_pos ⟨fits, Nat.le_add_left .., scaleLe⟩

theorem fit?_zeros (negative : Bool) (value : Decimal) (places : Nat) :
    ∃ result kept,
      fit? negative (value.coefficient * 10 ^ places) (value.scale + places) = some result ∧
        result.negative = negative ∧ result.coefficient = value.coefficient * 10 ^ kept ∧
        result.scale = value.scale + kept ∧
        (kept = 0 ↔ places = 0 ∨ value.scale = 28 ∨ 2 ^ (96 : Nat) ≤ value.coefficient * 10) := by
  have coefficientLt := value.coefficient_lt
  have scaleLe := value.scale_le
  have power (exponent : Nat) : 0 < 10 ^ exponent := Nat.pow_pos (by decide)
  have surplusLe : surplus (value.coefficient * 10 ^ places) ≤ places := by
    apply surplus_le_iff.mpr
    rw [Nat.mul_div_cancel _ (power places)]
    exact coefficientLt
  generalize most : max (surplus (value.coefficient * 10 ^ places)) (value.scale + places - 28) =
    dropped
  obtain ⟨kept, split⟩ : ∃ kept, places = kept + dropped := ⟨places - dropped, by omega⟩
  have magnitude :
      value.coefficient * 10 ^ places = value.coefficient * 10 ^ kept * 10 ^ dropped := by
    rw [split, Nat.pow_add, Nat.mul_assoc]
  have fits : value.coefficient * 10 ^ kept < 2 ^ (96 : Nat) := by
    have surplusDropped : surplus (value.coefficient * 10 ^ places) ≤ dropped := by omega
    have fits := surplus_le_iff.mp surplusDropped
    rwa [magnitude, Nat.mul_div_cancel _ (power dropped)] at fits
  have scaleFits : value.scale + kept ≤ 28 := by omega
  refine ⟨⟨negative, _, _, fits, scaleFits⟩, kept, ?_, rfl, rfl, rfl, ?_⟩
  · rw [fit?, most, magnitude, split, ← Nat.add_assoc,
      dropDigits?_zeros negative dropped fits scaleFits]
    rfl
  · have oneTooMany : places ≤ surplus (value.coefficient * 10 ^ places) ↔
        places = 0 ∨ 2 ^ (96 : Nat) ≤ value.coefficient * 10 := by
      cases places with
      | zero => simp
      | succ fewer =>
          have one :
              value.coefficient * 10 ^ (fewer + 1) / 10 ^ fewer = value.coefficient * 10 := by
            rw [Nat.pow_succ', ← Nat.mul_assoc, Nat.mul_div_cancel _ (power fewer)]
          have bound := @surplus_le_iff (value.coefficient * 10 ^ (fewer + 1)) fewer
          rw [one] at bound
          omega
    omega

/-! ## Sums and products -/

theorem eq_of_fields {left right : Decimal} (negative : left.negative = right.negative)
    (coefficient : left.coefficient = right.coefficient) (scale : left.scale = right.scale) :
    left = right := by
  cases left
  cases right
  cases negative
  cases coefficient
  cases scale
  rfl

theorem coefficient_pos {value : Decimal} (notZero : value.isZero = false) :
    0 < value.coefficient := by
  apply Nat.pos_of_ne_zero
  intro none
  rw [isZero, none] at notZero
  cases notZero

theorem isZero_of_coefficient_pos {value : Decimal} (positive : 0 < value.coefficient) :
    value.isZero = false :=
  beq_false_of_ne (Nat.ne_of_gt positive)

theorem add?_zero {value identity : Decimal} (zero : identity.isZero = true) :
    value.add? identity = some (if value.isZero then identity else value) := by
  rw [add?, zero]
  split <;> rfl

theorem subtract?_zero {value identity : Decimal} (zero : identity.isZero = true) :
    value.subtract? identity = some (if value.isZero then identity else value) := by
  rw [subtract?, zero]
  split <;> rfl

theorem zero_add? {value identity : Decimal} (zero : identity.isZero = true) :
    identity.add? value = some value := by
  rw [add?, zero, if_pos rfl]

theorem multiply?_comm (left right : Decimal) : left.multiply? right = right.multiply? left := by
  simp only [multiply?, Nat.add_comm left.scale, Nat.mul_comm left.coefficient,
    Bool.and_comm left.isShort, Bool.or_comm left.isZero, @bne_comm _ _ _ left.negative]

theorem IsOne.scale_le_of_isShort {identity : Decimal} (isOne : identity.IsOne)
    (short : identity.isShort = true) : identity.scale ≤ 9 := by
  rw [isShort, isOne.coefficient, decide_eq_true_eq] at short
  apply Nat.le_of_not_lt
  intro longer
  have := Nat.pow_le_pow_right (n := 10) (by decide) longer
  omega

theorem multiply?_one (value : Decimal) {identity : Decimal} (isOne : identity.IsOne) :
    ∃ result, value.multiply? identity = some result ∧ result.sameNumber value = true ∧
      (result = value ↔
        if value.isZero then value = zero
        else identity.scale = 0 ∨ value.scale = 28 ∨ 2 ^ (96 : Nat) ≤ value.coefficient * 10) := by
  cases isZero : value.isZero with
  | true =>
      refine ⟨zero, ?_, sameNumber_of_isZero rfl isZero, eq_comm⟩
      rw [multiply?, isZero]
      rfl
  | false =>
      have positive := coefficient_pos isZero
      have power (exponent : Nat) : 0 < 10 ^ exponent := Nat.pow_pos (by decide)
      have identityNotZero : identity.isZero = false :=
        isZero_of_coefficient_pos (Nat.lt_of_lt_of_eq (power _) isOne.coefficient.symm)
      have notTiny :
          ¬((value.isShort && identity.isShort) = true ∧ 47 < value.scale + identity.scale) := by
        rintro ⟨short, many⟩
        have := isOne.scale_le_of_isShort (Bool.and_eq_true_iff.mp short).2
        have := value.scale_le
        omega
      rcases fit?_zeros value.negative value identity.scale with
        ⟨result, kept, fits, negative, coefficient, scale, all⟩
      have resultNotZero : result.isZero = false :=
        isZero_of_coefficient_pos
          (Nat.lt_of_lt_of_eq (Nat.mul_pos positive (power kept)) coefficient.symm)
      refine ⟨result, ?_, ?_, ?_⟩
      · have sign : (value.negative != identity.negative) = value.negative := by
          rw [isOne.negative, Bool.bne_false]
        rw [multiply?]
        dsimp only
        rw [isZero, identityNotZero, Bool.or_false, if_neg Bool.false_ne_true, if_neg notTiny, sign,
          isOne.coefficient, fits, Option.map_some, resultNotZero, Bool.and_false,
          if_neg Bool.false_ne_true]
      · apply sameNumber_of_coefficient negative
        rw [coefficient, scale, Nat.mul_assoc, ← Nat.pow_add, Nat.add_comm]
      · rw [if_neg Bool.false_ne_true, ← all]
        constructor
        · intro equal
          rw [equal] at scale
          omega
        · rintro rfl
          exact eq_of_fields negative (by simpa using coefficient) scale

/-! ## Quotients -/

/-- Whether a quotient is a decimal without its sign. -/
structure Quotient.IsNumberOf (quotient : Quotient) (value : Decimal) : Prop where
  coefficient_lt : quotient.coefficient < 2 ^ (96 : Nat)
  scale_nonneg : 0 ≤ quotient.scale
  scale_le : quotient.scale ≤ 28
  same : quotient.coefficient * 10 ^ value.scale = value.coefficient * 10 ^ quotient.scale.toNat

theorem le_room {coefficient places limit : Nat} (atMost : places ≤ limit)
    (fits : coefficient * 10 ^ places < 2 ^ (96 : Nat)) : places ≤ room coefficient limit := by
  induction limit with
  | zero => exact atMost
  | succ limit induction =>
      rw [room]
      split
      · exact atMost
      · rename_i full
        rcases Nat.lt_or_eq_of_le atMost with fewer | rfl
        · exact induction (Nat.le_of_lt_succ fewer)
        · exact absurd fits full

theorem room_le (coefficient limit : Nat) : room coefficient limit ≤ limit := by
  induction limit with
  | zero => exact Nat.le_refl 0
  | succ limit induction =>
      rw [room]
      split
      · exact Nat.le_refl _
      · exact Nat.le_succ_of_le induction

theorem room_fits {coefficient : Nat} (small : coefficient < 2 ^ (96 : Nat)) (limit : Nat) :
    coefficient * 10 ^ room coefficient limit < 2 ^ (96 : Nat) := by
  induction limit with
  | zero => rwa [room, Nat.pow_zero, Nat.mul_one]
  | succ limit induction =>
      rw [room]
      split
      · assumption
      · exact induction

/-- The state of a division of a decimal by a one with some places: what was divided so far is the
coefficient with more zeros behind it. -/
structure DividesByOne (value : Decimal) (places quotient remainder developed : Nat)
    (scale : Int) : Prop where
  division : quotient * 10 ^ places + remainder = value.coefficient * 10 ^ developed
  scale_eq : scale = value.scale - places + developed
  scale_le : scale ≤ 28
  quotient_lt : quotient < 2 ^ (96 : Nat)
  remainder_lt : remainder < 10 ^ places

section

variable {value : Decimal} {places quotient remainder developed : Nat} {scale : Int}

theorem DividesByOne.developed_lt
    (divides : DividesByOne value places quotient remainder developed scale)
    (unfinished : remainder ≠ 0) : developed < places := by
  apply Nat.lt_of_not_le
  intro all
  have divisible : 10 ^ places ∣ quotient * 10 ^ places + remainder := by
    rw [divides.division]
    exact Nat.dvd_mul_left_of_dvd (Nat.pow_dvd_pow 10 all) _
  have remainderDivisible := (Nat.dvd_add_right (Nat.dvd_mul_left ..)).mp divisible
  exact unfinished (Nat.eq_zero_of_dvd_of_lt remainderDivisible divides.remainder_lt)

theorem DividesByOne.quotient_mul_le
    (divides : DividesByOne value places quotient remainder developed scale) {missing : Nat}
    (all : places = developed + missing) : quotient * 10 ^ missing ≤ value.coefficient := by
  have positive : 0 < 10 ^ developed := Nat.pow_pos (by decide)
  apply Nat.le_of_mul_le_mul_right _ positive
  calc quotient * 10 ^ missing * 10 ^ developed
      = quotient * 10 ^ places := by rw [Nat.mul_assoc, ← Nat.pow_add, Nat.add_comm, ← all]
    _ ≤ quotient * 10 ^ places + remainder := Nat.le_add_right ..
    _ = value.coefficient * 10 ^ developed := divides.division

theorem DividesByOne.same (divides : DividesByOne value places quotient 0 developed scale)
    (nonneg : 0 ≤ scale) :
    quotient * 10 ^ value.scale = value.coefficient * 10 ^ scale.toNat := by
  have positive : 0 < 10 ^ places := Nat.pow_pos (by decide)
  have scales : developed + value.scale = scale.toNat + places := by
    have := divides.scale_eq
    omega
  have division := divides.division
  apply Nat.eq_of_mul_eq_mul_right positive
  calc quotient * 10 ^ value.scale * 10 ^ places
      = (quotient * 10 ^ places + 0) * 10 ^ value.scale := Nat.mul_right_comm ..
    _ = value.coefficient * (10 ^ developed * 10 ^ value.scale) := by rw [division, Nat.mul_assoc]
    _ = value.coefficient * 10 ^ scale.toNat * 10 ^ places := by
        rw [← Nat.pow_add, scales, Nat.pow_add, Nat.mul_assoc]

theorem DividesByOne.wholePlaces (divides : DividesByOne value places quotient 0 developed scale)
    (power : Nat) (whole : scale + power ≤ 0) :
    DividesByOne value places (quotient * 10 ^ power) 0 (developed + power) (scale + power) := by
  have equal := divides.scale_eq
  obtain ⟨missing, all⟩ : ∃ missing, places = developed + missing := ⟨places - developed, by omega⟩
  have atMost := divides.quotient_mul_le all
  have fewer : 10 ^ power ≤ 10 ^ missing := Nat.pow_le_pow_right (by decide) (by omega)
  refine ⟨?_, by omega, by omega, ?_, divides.remainder_lt⟩
  · rw [Nat.pow_add, ← Nat.mul_assoc, ← divides.division, Nat.add_zero, Nat.add_zero,
      Nat.mul_right_comm]
  · calc quotient * 10 ^ power ≤ quotient * 10 ^ missing := Nat.mul_le_mul_left _ fewer
      _ ≤ value.coefficient := atMost
      _ < 2 ^ (96 : Nat) := value.coefficient_lt

/-- Whether a division can develop some more places behind a remainder. -/
structure Develops (quotient : Nat) (scale : Int) (limit power : Nat) : Prop where
  power_pos : 0 < power
  power_le : power ≤ limit
  nonneg : ¬(power < limit ∧ scale + power < 0)
  fits : quotient * 10 ^ power < 2 ^ (96 : Nat)

theorem DividesByOne.develops
    (divides : DividesByOne value places quotient remainder developed scale)
    (unfinished : remainder ≠ 0) :
    Develops quotient scale (min 9 (28 - scale).toNat)
      (room quotient (min 9 (28 - scale).toNat)) := by
  have equal := divides.scale_eq
  have scaleLe := value.scale_le
  have developedLt := divides.developed_lt unfinished
  generalize limited : min 9 (28 - scale).toNat = limit
  obtain ⟨missing, all⟩ : ∃ missing, places = developed + missing := ⟨places - developed, by omega⟩
  have enough : min missing limit ≤ room quotient limit := by
    apply le_room (Nat.min_le_right ..)
    have fewer : 10 ^ min missing limit ≤ 10 ^ missing :=
      Nat.pow_le_pow_right (by decide) (Nat.min_le_left ..)
    calc quotient * 10 ^ min missing limit
        ≤ quotient * 10 ^ missing := Nat.mul_le_mul_left _ fewer
      _ ≤ value.coefficient := divides.quotient_mul_le all
      _ < 2 ^ (96 : Nat) := value.coefficient_lt
  have atMost := room_le quotient limit
  exact ⟨by omega, atMost, by omega, room_fits divides.quotient_lt limit⟩

theorem DividesByOne.division_develop
    (divides : DividesByOne value places quotient remainder developed scale) (power : Nat) :
    (quotient * 10 ^ power + remainder * 10 ^ power / 10 ^ places) * 10 ^ places +
        remainder * 10 ^ power % 10 ^ places =
      value.coefficient * 10 ^ (developed + power) := by
  calc (quotient * 10 ^ power + remainder * 10 ^ power / 10 ^ places) * 10 ^ places +
        remainder * 10 ^ power % 10 ^ places
      = quotient * 10 ^ power * 10 ^ places +
          (10 ^ places * (remainder * 10 ^ power / 10 ^ places) +
            remainder * 10 ^ power % 10 ^ places) := by
        rw [Nat.add_mul, Nat.add_assoc, Nat.mul_comm (10 ^ places)]
    _ = (quotient * 10 ^ places + remainder) * 10 ^ power := by
        rw [Nat.div_add_mod, Nat.add_mul, Nat.mul_right_comm]
    _ = value.coefficient * 10 ^ (developed + power) := by
        rw [divides.division, Nat.pow_add, Nat.mul_assoc]

theorem DividesByOne.shorten?
    (divides : DividesByOne value places quotient remainder developed scale) {limit power : Nat}
    (develops : Develops quotient scale limit power) (limit_le : limit ≤ min 9 (28 - scale).toNat)
    (large : ¬quotient * 10 ^ power + remainder * 10 ^ power / 10 ^ places < 2 ^ (96 : Nat)) :
    ∃ result, Decimal.shorten? (quotient * 10 ^ power + remainder * 10 ^ power / 10 ^ places)
        (scale + power) (remainder * 10 ^ power % 10 ^ places != 0) = some result ∧
      result.IsNumberOf value := by
  have division := divides.division_develop power
  have equal := divides.scale_eq
  have coefficientLt := value.coefficient_lt
  have powerPos := develops.power_pos
  have powerLe := develops.power_le
  have positive : 0 < 10 ^ places := Nat.pow_pos (by decide)
  have digits : remainder * 10 ^ power / 10 ^ places < 10 ^ (9 : Nat) := by
    apply Nat.div_lt_of_lt_mul
    calc remainder * 10 ^ power < 10 ^ places * 10 ^ power :=
          Nat.mul_lt_mul_of_pos_right divides.remainder_lt (Nat.pow_pos (by decide))
      _ ≤ 10 ^ places * 10 ^ (9 : Nat) :=
          Nat.mul_le_mul_left _ (Nat.pow_le_pow_right (by decide) (by omega))
  have fits := develops.fits
  have restLt := Nat.mod_lt (remainder * 10 ^ power) positive
  generalize remainder * 10 ^ power % 10 ^ places = rest at division restLt ⊢
  have atMost : quotient * 10 ^ power + remainder * 10 ^ power / 10 ^ places <
      2 ^ (96 : Nat) + 10 ^ (9 : Nat) := Nat.add_lt_add fits digits
  generalize quotient * 10 ^ power + remainder * 10 ^ power / 10 ^ places = longer
    at division large atMost ⊢
  -- With fewer places the quotient would be at most the coefficient, which is small enough.
  have further : places < developed + power := by
    apply Nat.lt_of_not_le
    intro fewer
    apply large
    refine Nat.lt_of_le_of_lt (Nat.le_of_mul_le_mul_right ?_ positive) coefficientLt
    calc longer * 10 ^ places ≤ longer * 10 ^ places + rest := Nat.le_add_right ..
      _ = value.coefficient * 10 ^ (developed + power) := division
      _ ≤ value.coefficient * 10 ^ places :=
          Nat.mul_le_mul_left _ (Nat.pow_le_pow_right (by decide) fewer)
  obtain ⟨extra, split⟩ : ∃ extra, developed + power = extra + 1 + places :=
    ⟨developed + power - places - 1, by omega⟩
  have longer_eq : longer = value.coefficient * 10 ^ extra * 10 := by
    have quotient_eq : (longer * 10 ^ places + rest) / 10 ^ places = longer := by
      rw [Nat.mul_comm, Nat.mul_add_div positive, Nat.div_eq_of_lt restLt, Nat.add_zero]
    rw [← quotient_eq, division, split, Nat.pow_add, Nat.pow_succ, ← Nat.mul_assoc, ← Nat.mul_assoc,
      Nat.mul_div_cancel _ positive]
  have last : longer % 10 = 0 := by omega
  have shorter : longer / 10 = value.coefficient * 10 ^ extra := by omega
  refine ⟨⟨longer / 10, scale + power - 1, true⟩, ?_, ?_⟩
  · rw [Decimal.shorten?, if_neg (by omega), last]
    rfl
  · refine ⟨?_, ?_, ?_, ?_⟩
    · change longer / 10 < 2 ^ (96 : Nat)
      omega
    · change 0 ≤ scale + power - 1
      omega
    · change scale + power - 1 ≤ 28
      omega
    · change longer / 10 * 10 ^ value.scale = value.coefficient * 10 ^ (scale + power - 1).toNat
      have places_eq : (scale + power - 1).toNat = extra + value.scale := by omega
      rw [shorter, places_eq, Nat.pow_add, Nat.mul_assoc]

theorem DividesByOne.divideFrom?
    (divides : DividesByOne value places quotient remainder developed scale) (inexact : Bool) :
    ∃ result, Decimal.divideFrom? (10 ^ places) quotient remainder scale inexact = some result ∧
      result.IsNumberOf value := by
  -- The places that a quotient may still get are fewer after each step.
  induction left : (28 - scale).toNat using Nat.strongRecOn
    generalizing quotient remainder developed scale inexact with
  | ind left induction =>
      have scaleLe := divides.scale_le
      rw [Decimal.divideFrom?]
      split
      · rename_i finished
        subst finished
        split
        · rename_i nonneg
          exact ⟨_, rfl, divides.quotient_lt, nonneg, scaleLe, divides.same nonneg⟩
        · rename_i negative
          have further := divides.wholePlaces (min 9 (-scale).toNat) (by omega)
          dsimp only
          rw [if_pos further.quotient_lt]
          exact induction _ (by omega) further inexact rfl
      · rename_i unfinished
        have develops := divides.develops unfinished
        dsimp only
        generalize room quotient (min 9 (28 - scale).toNat) = power at develops ⊢
        have powerPos := develops.power_pos
        have powerLe := develops.power_le
        rw [if_neg develops.nonneg, if_neg (by omega)]
        split
        · rename_i small
          have further : DividesByOne value places
              (quotient * 10 ^ power + remainder * 10 ^ power / 10 ^ places)
              (remainder * 10 ^ power % 10 ^ places) (developed + power) (scale + power) :=
            { division := divides.division_develop power
              scale_eq := by
                have equal := divides.scale_eq
                omega
              scale_le := by omega
              quotient_lt := small
              remainder_lt := Nat.mod_lt _ (Nat.pow_pos (by decide)) }
          exact induction _ (by omega) further true rfl
        · rename_i large
          exact divides.shorten? develops (Nat.le_refl _) large

end

theorem Quotient.IsNumberOf.stripBlock {quotient : Quotient} {value : Decimal}
    (number : quotient.IsNumberOf value) (places lowBits : Nat) :
    (Decimal.stripBlock quotient places lowBits).IsNumberOf value := by
  rw [Decimal.stripBlock]
  split
  · rename_i removable
    rcases removable with ⟨enough, _, divisible⟩
    have positive : 0 < 10 ^ places := Nat.pow_pos (by decide)
    refine ⟨Nat.lt_of_le_of_lt (Nat.div_le_self ..) number.coefficient_lt,
      Int.sub_nonneg_of_le enough, ?_, ?_⟩
    · have := number.scale_le
      dsimp only
      omega
    · dsimp only
      have scale : quotient.scale.toNat = (quotient.scale - places).toNat + places := by omega
      apply Nat.eq_of_mul_eq_mul_right positive
      rw [Nat.mul_right_comm, Nat.div_mul_cancel (Nat.dvd_of_mod_eq_zero divisible), number.same,
        scale, Nat.pow_add, Nat.mul_assoc]
  · exact number

theorem Quotient.IsNumberOf.stripZeros {quotient : Quotient} {value : Decimal}
    (number : quotient.IsNumberOf value) : (Decimal.stripZeros quotient).IsNumberOf value := by
  rw [Decimal.stripZeros]
  induction zeroBlocks generalizing quotient with
  | nil => exact number
  | cons block rest induction => exact induction (number.stripBlock block.1 block.2)

theorem DividesByOne.start (value : Decimal) (places : Nat) :
    DividesByOne value places (value.coefficient / 10 ^ places) (value.coefficient % 10 ^ places) 0
      (value.scale - places) where
  division := by
    rw [Nat.mul_comm, Nat.div_add_mod, Nat.pow_zero, Nat.mul_one]
  scale_eq := by omega
  scale_le := by
    have := value.scale_le
    omega
  quotient_lt := Nat.lt_of_le_of_lt (Nat.div_le_self ..) value.coefficient_lt
  remainder_lt := Nat.mod_lt _ (Nat.pow_pos (by decide))

theorem divide?_eq_some {left right : Decimal} {quotient final : Quotient}
    (notZero : left.isZero = false)
    (divides : divideFrom? right.coefficient (left.coefficient / right.coefficient)
      (left.coefficient % right.coefficient) (left.scale - right.scale) false = some quotient)
    (equal : (if quotient.inexact then stripZeros quotient else quotient) = final)
    (small : final.coefficient < 2 ^ (96 : Nat)) (places : final.scale.toNat ≤ 28) :
    left.divide? right = some ⟨left.negative != right.negative && final.coefficient != 0,
      final.coefficient, final.scale.toNat, small, places⟩ := by
  subst equal
  rw [divide?, notZero, if_neg Bool.false_ne_true]
  dsimp only
  rw [divides, Option.bind_some]
  exact dif_pos ⟨small, places⟩

/-- The quotient by a one is the same number. It is written as it was if the one has no places. -/
theorem divide?_one (value : Decimal) {identity : Decimal} (isOne : identity.IsOne) :
    ∃ result, value.divide? identity = some result ∧ result.sameNumber value = true ∧
      ((if value.isZero then value = zero else identity.scale = 0) → result = value) := by
  cases isZero : value.isZero with
  | true =>
      refine ⟨zero, ?_, sameNumber_of_isZero rfl isZero, Eq.symm⟩
      rw [divide?, isZero]
      rfl
  | false =>
      have positive := coefficient_pos isZero
      have power (exponent : Nat) : 0 < 10 ^ exponent := Nat.pow_pos (by decide)
      rcases (DividesByOne.start value identity.scale).divideFrom? false with
        ⟨quotient, divides, number⟩
      have written (noPlaces : identity.scale = 0) :
          (if quotient.inexact then stripZeros quotient else quotient) =
            ⟨value.coefficient, value.scale, false⟩ := by
        rw [noPlaces, Nat.pow_zero, Nat.div_one, Nat.mod_one, divideFrom?, if_pos rfl,
          if_pos (by omega)] at divides
        cases divides
        exact congrArg (Quotient.mk _ · false) (by omega)
      have stripped : (if quotient.inexact then stripZeros quotient else quotient).IsNumberOf
          value := by
        split
        · exact number.stripZeros
        · exact number
      obtain ⟨final, equal⟩ :
          ∃ final, (if quotient.inexact then stripZeros quotient else quotient) = final := ⟨_, rfl⟩
      rw [equal] at stripped written
      have scaleLe : final.scale.toNat ≤ 28 := by
        have := stripped.scale_le
        omega
      have finalPositive : 0 < final.coefficient := by
        apply Nat.pos_of_mul_pos_right
        exact Nat.lt_of_lt_of_eq (Nat.mul_pos positive (power _)) stripped.same.symm
      have sign : (value.negative != identity.negative && final.coefficient != 0) =
          value.negative := by
        rw [isOne.negative, Bool.bne_false, bne_iff_ne.mpr (Nat.ne_of_gt finalPositive),
          Bool.and_true]
      rw [← isOne.coefficient] at divides
      refine ⟨_, divide?_eq_some isZero divides equal stripped.coefficient_lt scaleLe,
        sameNumber_of_coefficient sign stripped.same, ?_⟩
      intro noPlaces
      have asWritten := written noPlaces
      apply eq_of_fields sign
      · change final.coefficient = value.coefficient
        rw [asWritten]
      · change final.scale.toNat = value.scale
        rw [asWritten]
        rfl

end GroupedReport.Decimal
