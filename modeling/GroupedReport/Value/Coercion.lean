import GroupedReport.Value.Basic

/-!
# Coercion

Values are converted between kinds by explicit rules. Numbers convert among each other, and a
number that has to become a whole one is rounded half to even. Every kind has a text, and text
is read as any other kind. A point in time converts only to and from text. Missing data becomes
what stands for missing data in the target kind.
-/

namespace GroupedReport

-- Powers are those of the core library, whatever else is imported.
attribute [local instance (high)] instPowNat

inductive CoercionError where
  /-- There is no conversion between the kinds. -/
  | cannotConvert (source target : Kind)
  /-- The text is not one of the target kind. -/
  | invalidFormat (text : String) (target : Kind)
  /-- The value does not fit in the target kind. -/
  | overflow (value : String) (target : Kind)
deriving DecidableEq, Repr

def CoercionError.message : CoercionError → String
  | cannotConvert source target => "Cannot convert " ++ source.name ++ " to " ++ target.name
  | invalidFormat text target => "'" ++ text ++ "' is not a valid " ++ target.name
  | overflow value target => "Value " ++ value ++ " is out of range for " ++ target.name

namespace Coercion

/-! ## Missing data -/

def absentBoolean : Bool := false

def absentInt32 : Int32 := Int32.minValue

def absentFloat64 : Float := Binary64.notANumber

def absentDecimal : Decimal := .least

def absentDateTime : DateTime := .least

/-! ## Between numbers -/

def int32OfInt? (value : Int) : Option Int32 :=
  if Decimal.int32Least ≤ value ∧ value ≤ Decimal.int32Greatest then some (Int32.ofInt value)
  else none

def booleanToInt32 (value : Bool) : Int32 :=
  if value then 1 else 0

def booleanToFloat64 (value : Bool) : Float :=
  Binary64.ofNat (if value then 1 else 0)

def booleanToDecimal (value : Bool) : Decimal :=
  if value then .one else .zero

def int32ToFloat64 (value : Int32) : Float :=
  Binary64.ofInt value.toInt

def float64ToBoolean (value : Float) : Bool :=
  !value.isNaN && value != Binary64.zero false

def float64ToInt32 (value : Float) : Except CoercionError Int32 :=
  if value.isNaN then .ok absentInt32
  else match (Binary64.toInt? value).bind int32OfInt? with
    | some rounded => .ok rounded
    | none => .error (.overflow (Binary64.plainText value) .int32)

def float64ToDecimal (value : Float) : Except CoercionError Decimal :=
  if value.isNaN then .ok absentDecimal
  else match Decimal.ofFloat? value with
    | some converted => .ok converted
    | none => .error (.overflow (Binary64.plainText value) .decimal)

def float64ToText (value : Float) : String :=
  if value.isNaN then "" else Binary64.plainText value

def decimalToInt32 (value : Decimal) : Except CoercionError Int32 :=
  match value.toInt32? with
  | some rounded => .ok rounded
  | none => .error (.overflow (.ofList value.text) .int32)

/-! ## Reading text

All readers ignore blanks around the text, but report the text as it was given. -/

def readBoolean (text : String) : Except CoercionError Bool :=
  let word := (Text.trim text.toList).map Char.toLower
  if word = ['t', 'r', 'u', 'e'] then .ok true
  else if word = ['f', 'a', 'l', 's', 'e'] then .ok false
  else .error (.invalidFormat text .boolean)

/-- Read digits with an optional sign. A number that is too large is out of range as soon as the
leading digits say so, whatever follows them. -/
def readInt32 (text : String) : Except CoercionError Int32 :=
  let (negative, rest) := Binary64.readSign (Text.trim text.toList)
  let (digits, after) := Text.Digits.split rest
  let magnitude := Text.Digits.value digits
  match int32OfInt? (if negative then -(magnitude : Int) else magnitude) with
  | none => .error (.overflow text .int32)
  | some value =>
      if digits.isEmpty || !after.isEmpty then .error (.invalidFormat text .int32)
      else .ok value

def readFloat64 (text : String) : Except CoercionError Float :=
  match Binary64.read? (Text.trim text.toList) with
  | some value => .ok value
  | none => .error (.invalidFormat text .float64)

def readDecimal (text : String) : Except CoercionError Decimal :=
  match Decimal.read? (Text.trim text.toList) with
  | some value => .ok value
  | none => .error (.invalidFormat text .decimal)

def readDateTime (text : String) : Except CoercionError DateTime :=
  match DateTime.read? (Text.trim text.toList) with
  | some value => .ok value
  | none => .error (.invalidFormat text .dateTime)

/-! ## Opaque values -/

/-- The value of JSON that is neither an array nor an object. A whole number is one of 32 bits
if it fits, else a decimal if it fits in 64 bits with a sign, else a double. -/
def ofScalar (target : Kind) : Json → Except CoercionError Value
  | .null => .ok .null
  | .bool value => .ok (.boolean value)
  | .string value => .ok (.string value)
  | .float value => .ok (.float64 value)
  | .integer value =>
      match int32OfInt? value with
      | some small => .ok (.int32 small)
      | none =>
          if bounds : -2 ^ (63 : Nat) ≤ value ∧ value < 2 ^ (63 : Nat) then
            .ok (.decimal ⟨decide (value < 0), value.natAbs, 0, by omega, by omega⟩)
          else .ok (.float64 (Binary64.ofInt value))
  | .array _ | .object _ => .error (.cannotConvert .object target)

/-- A value to be converted: an opaque one is replaced by the value inside of it. -/
def unwrap (target : Kind) : Value → Except CoercionError Value
  | .object value => ofScalar target value
  | value => .ok value

end Coercion

namespace Value

open Coercion

/-! ## Conversions -/

def toBoolean (value : Value) : Except CoercionError Bool := do
  match ← unwrap .boolean value with
  | null => .ok absentBoolean
  | boolean value => .ok value
  | int32 value => .ok (value != 0)
  | float64 value => .ok (float64ToBoolean value)
  | decimal value => .ok (!value.isZero)
  | string value => readBoolean value
  | dateTime _ => .error (.cannotConvert .dateTime .boolean)
  | object _ => .error (.cannotConvert .object .boolean)

def toInt32 (value : Value) : Except CoercionError Int32 := do
  match ← unwrap .int32 value with
  | null => .ok absentInt32
  | boolean value => .ok (booleanToInt32 value)
  | int32 value => .ok value
  | float64 value => float64ToInt32 value
  | decimal value => decimalToInt32 value
  | string value => readInt32 value
  | dateTime _ => .error (.cannotConvert .dateTime .int32)
  | object _ => .error (.cannotConvert .object .int32)

def toFloat64 (value : Value) : Except CoercionError Float := do
  match ← unwrap .float64 value with
  | null => .ok absentFloat64
  | boolean value => .ok (booleanToFloat64 value)
  | int32 value => .ok (int32ToFloat64 value)
  | float64 value => .ok value
  | decimal value => .ok value.toFloat
  | string value => readFloat64 value
  | dateTime _ => .error (.cannotConvert .dateTime .float64)
  | object _ => .error (.cannotConvert .object .float64)

def toDecimal (value : Value) : Except CoercionError Decimal := do
  match ← unwrap .decimal value with
  | null => .ok absentDecimal
  | boolean value => .ok (booleanToDecimal value)
  | int32 value => .ok (.ofInt32 value)
  | float64 value => float64ToDecimal value
  | decimal value => .ok value
  | string value => readDecimal value
  | dateTime _ => .error (.cannotConvert .dateTime .decimal)
  | object _ => .error (.cannotConvert .object .decimal)

/-- Only text becomes a point in time, and missing data of any kind. -/
def toDateTime (value : Value) : Except CoercionError DateTime := do
  match ← unwrap .dateTime value with
  | null => .ok absentDateTime
  | float64 value =>
      if value.isNaN then .ok absentDateTime else .error (.cannotConvert .float64 .dateTime)
  | dateTime value => .ok value
  | string value => readDateTime value
  | boolean _ => .error (.cannotConvert .boolean .dateTime)
  | int32 _ => .error (.cannotConvert .int32 .dateTime)
  | decimal _ => .error (.cannotConvert .decimal .dateTime)
  | object _ => .error (.cannotConvert .object .dateTime)

/-- The canonical text of a value; every value has one, an empty one if data is missing. -/
def toText : Value → String
  | null => ""
  | boolean value => if value then "true" else "false"
  | int32 value => .ofList (Text.Digits.writeInt value.toInt)
  | float64 value => float64ToText value
  | decimal value => .ofList value.text
  | string value => value
  | dateTime value => .ofList value.text
  | object (.string value) => value
  | object .null => ""
  | object value => value.compact

/-- A value read in a kind. Missing data becomes what stands for it there, and any value may
pass as an opaque one. -/
def readAs (kind : Kind) (value : Value) : Except CoercionError Value :=
  match kind with
  | .boolean => value.toBoolean.map boolean
  | .int32 => value.toInt32.map int32
  | .float64 => value.toFloat64.map float64
  | .decimal => value.toDecimal.map decimal
  | .string => .ok (string value.toText)
  | .dateTime => value.toDateTime.map dateTime
  | .object => .ok value

/-- Convert a value to a kind. Null stays null. -/
def coerce (value : Value) (kind : Kind) : Except CoercionError Value :=
  if value.isNull ∨ value.kind? = some kind then .ok value else value.readAs kind

end Value

end GroupedReport
