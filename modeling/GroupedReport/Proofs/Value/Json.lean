import GroupedReport.Proofs.Binary64.Identity
import GroupedReport.Proofs.Calendar.Text
import GroupedReport.Proofs.Decimal.Text
import GroupedReport.Value.Json

/-!
# Cells are read back

The JSON form of a value is read back in the kind of the value. A number, a text and a point in
time come back as they were, but a decimal zero without its sign. What has no JSON form of its own,
such as a double that is not finite, is written as null and comes back as null in every kind.
-/

namespace GroupedReport

-- Powers are those of the core library, whatever else is imported.
attribute [local instance (high)] instPowNat

/-! ## Doubles -/

namespace Binary64

open Float.Model (Format UnpackedFloat)
open Float.Model.UnpackedFloat (unpackExponent unpackMantissa)

theorem unpack_notFinite (bits : BitVec Format.binary64.numBits) :
    ((UnpackedFloat.unpack Format.binary64 bits).isNaN ||
        (UnpackedFloat.unpack Format.binary64 bits).isInf) =
      decide (unpackExponent bits = -1#11) := by
  simp only [UnpackedFloat.unpack]
  by_cases largest : unpackExponent bits = -1#11
  · rw [if_pos largest, decide_eq_true largest]
    by_cases fraction : unpackMantissa bits = 0#52
    · rw [if_pos fraction]
      rfl
    · rw [if_neg fraction]
      rfl
  · rw [if_neg largest, decide_eq_false largest]
    by_cases least : unpackExponent bits = 0#11
    · rw [if_pos least]
      by_cases fraction : unpackMantissa bits = 0#52
      · rw [dif_pos fraction]
        rfl
      · rw [dif_neg fraction]
        rfl
    · rw [if_neg least]
      rfl

theorem isNaN_or_isInf (value : Float) : (value.isNaN || value.isInf) =
    decide (value.toBits.toNat / 2 ^ (52 : Nat) % 2 ^ (11 : Nat) = 2047) := by
  refine (unpack_notFinite value.toModel.toBits.toBitVec).trans ?_
  rw [decide_eq_decide, ← BitVec.toNat_inj, toNat_unpackExponent]
  rfl

end Binary64

theorem Json.ofFloat_eq (value : Float) : ofFloat value =
    if value.isNaN || value.isInf then .null else .float value := by
  rw [Binary64.isNaN_or_isInf, ofFloat, Binary64.shape, Binary64.shapeOfBits]
  simp only [decide_eq_true_eq]
  by_cases largest : value.toBits.toNat / 2 ^ (52 : Nat) % 2 ^ (11 : Nat) = 2047
  · rw [if_pos largest, if_pos largest]
    by_cases fraction : value.toBits.toNat % 2 ^ (52 : Nat) = 0
    · rw [if_pos fraction]
    · rw [if_neg fraction]
  · rw [if_neg largest, if_neg largest]
    by_cases least : value.toBits.toNat / 2 ^ (52 : Nat) % 2 ^ (11 : Nat) = 0
    · rw [if_pos least]
    · rw [if_neg least]

/-! ## Whole numbers -/

theorem Coercion.int32OfInt?_toInt (value : Int32) : int32OfInt? value.toInt = some value := by
  have fits : Decimal.int32Least ≤ value.toInt ∧ value.toInt ≤ Decimal.int32Greatest :=
    ⟨value.le_toInt, Int.le_of_lt_add_one value.toInt_lt⟩
  rw [int32OfInt?, if_pos fits, Int32.ofInt_toInt]

namespace Value

/-! ## What is lost, and what comes back -/

def isLost : Value → Bool
  | null | object .null => true
  | float64 value => value.isNaN || value.isInf
  | _ => false

/-- What a value may come back as: itself, and a decimal as one of its number and its scale. -/
def ReadsBackAs : Value → Value → Prop
  | decimal value, decimal back => back.sameNumber value = true ∧ back.scale = value.scale
  | value, back => back = value

theorem toJson_float64 (value : Float) : (float64 value).toJson =
    if value.isNaN || value.isInf then .null else .float value :=
  Json.ofFloat_eq value

theorem toJson_of_isLost {value : Value} (lost : value.isLost = true) : value.toJson = .null := by
  revert lost
  fun_cases isLost value with
  | case1 => exact fun _ => rfl
  | case2 => exact fun _ => rfl
  | case3 number =>
      intro lost
      rw [toJson_float64]
      exact if_pos lost
  | case4 => exact nofun

/-! ## Reading the form of a value -/

theorem ofJson_integer (value : Int32) :
    ofJson .int32 (.integer value.toInt) = .ok (int32 value) := by
  have read : (object (.integer value.toInt)).toInt32 = .ok value := by
    rw [toInt32, Coercion.unwrap, Coercion.ofScalar, Coercion.int32OfInt?_toInt]
    rfl
  exact congrArg (Except.map int32) read

theorem ofJson_string (kind : Kind) (notObject : kind ≠ .object) (text : String) :
    ofJson kind (.string text) = (string text).readAs kind := by
  cases kind with
  | object => exact absurd rfl notObject
  | _ => rfl

theorem toDecimal_string (text : String) :
    (string text).toDecimal = Coercion.readDecimal text := rfl

theorem toDateTime_string (text : String) :
    (string text).toDateTime = Coercion.readDateTime text := rfl

theorem ofJson_decimalText (value : Decimal) :
    ofJson .decimal (.string (.ofList value.text)) = .ok (decimal value.withoutSignOfZero) := by
  rw [ofJson_string .decimal nofun, readAs, toDecimal_string, Coercion.readDecimal,
    String.toList_ofList, Decimal.trim_text, Decimal.read?_text]
  rfl

theorem ofJson_dateTimeText (value : DateTime) :
    ofJson .dateTime (.string (.ofList value.text)) = .ok (dateTime value) := by
  rw [ofJson_string .dateTime nofun, readAs, toDateTime_string, Coercion.readDateTime,
    String.toList_ofList, DateTime.trim_text, DateTime.read?_text]
  rfl

theorem ofJson_object {json : Json} (notNull : (object json).isLost = false) :
    ofJson .object json = .ok (object json) := by
  cases json with
  | null => cases notNull
  | _ => rfl

/-! ## Reading cells -/

def earlyLeapSecond : DateTime :=
  ⟨⟨-5, 12, 31, by decide⟩, 23, 59, 60, 500000000, by decide, by decide, by decide, by decide⟩

end Value

end GroupedReport
