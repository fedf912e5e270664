import GroupedReport.Binary64.Text
import GroupedReport.Json.Basic

/-!
# JSON numbers

A number without a point and without an exponent is whole if it fits in 64 bits, with or without
a sign. Any other number is a double: its first digits as an integer of 64 bits, then one
multiplication or division by a power of ten. That is not always the nearest double.
-/

namespace GroupedReport.Json

-- Powers are those of the core library, whatever else is imported.
attribute [local instance (high)] instPowNat

inductive Number where
  | integer (value : Int)
  | float (value : Float)
deriving DecidableEq, Repr

def Number.json : Number → Json
  | integer value => .integer value
  | float value => .float value

def Number.toFloat : Number → Float
  | integer value => Binary64.ofInt value
  | float value => value

structure Spelling where
  negative : Bool
  whole : List Char
  fraction : Option (List Char)
  exponent : Option (Bool × List Char)
deriving DecidableEq, Repr

namespace Spelling

/-- The leading digits of a number as an integer of 64 bits, and the power of ten they are
followed by. `full` says that a digit did not fit. -/
structure Significand where
  digits : Nat
  power : Int
  full : Bool

/-- Take in the digits of a whole part. When one does not fit, it and the rest only raise the
power. -/
def addWhole (significand : Significand) : List Char → Significand
  | [] => significand
  | character :: rest =>
      let longer := significand.digits * 10 + Text.Digits.digitValue character
      if significand.full || 2 ^ (64 : Nat) ≤ longer then
        addWhole ⟨significand.digits, significand.power + 1, true⟩ rest
      else addWhole ⟨longer, significand.power, false⟩ rest

/-- Take in the digits of a fraction. When one does not fit, it and the rest are ignored. -/
def addFraction (significand : Significand) : List Char → Significand
  | [] => significand
  | character :: rest =>
      let longer := significand.digits * 10 + Text.Digits.digitValue character
      if 2 ^ (64 : Nat) ≤ longer then significand
      else addFraction ⟨longer, significand.power - 1, false⟩ rest

def greatestPower : Nat := 308

/-- Divide by a power of ten, by at most `10 ^ 308` at a time. -/
def divideByPower (value : Float) (power : Nat) : Float :=
  if power ≤ greatestPower then value / Binary64.ofNat (10 ^ power)
  else if value == Binary64.zero false then value
  else divideByPower (value / Binary64.ofNat (10 ^ greatestPower)) (power - greatestPower)
termination_by power
decreasing_by
  simp only [greatestPower] at *
  omega

def magnitude? (digits : Nat) (power : Int) : Option Float :=
  let value := Binary64.ofNat digits
  if power < 0 then some (divideByPower value (-power).toNat)
  else if power ≤ greatestPower then
    let product := value * Binary64.ofNat (10 ^ power.toNat)
    if product == Binary64.infinity false then none else some product
  else if digits = 0 then some value
  else none

/-- The greatest exponent that is computed with; beyond it a number is zero or too large. -/
def greatestExponent : Nat := 2147483647

def float? (spelling : Spelling) : Option Float :=
  let whole := addWhole ⟨0, 0, false⟩ spelling.whole
  let significand := addFraction whole (spelling.fraction.getD [])
  match spelling.exponent with
  | none => magnitude? significand.digits significand.power
  | some (negative, digits) =>
      let exponent := Text.Digits.value digits
      if greatestExponent < exponent then
        if significand.digits ≠ 0 ∧ !negative then none else some (Binary64.zero false)
      else
        magnitude? significand.digits
          (if negative then significand.power - exponent else significand.power + exponent)

/-- The number that is spelled, unless it is too large. The spelling -0 is no whole number. -/
def number? (spelling : Spelling) : Option Number :=
  let whole := Text.Digits.value spelling.whole
  let isWhole := spelling.fraction.isNone && spelling.exponent.isNone
  if isWhole && spelling.negative && 0 < whole && whole ≤ 2 ^ (63 : Nat) then
    some (.integer (-(whole : Int)))
  else if isWhole && !spelling.negative && whole < 2 ^ (64 : Nat) then some (.integer whole)
  else spelling.float?.map fun magnitude =>
    .float (if spelling.negative then -magnitude else magnitude)

end Spelling

def ofFloat (value : Float) : Json :=
  match Binary64.shape value with
  | .finite _ _ _ => .float value
  | _ => .null

/-- The text of a double in JSON: with a fraction where it has no exponent, and with an exponent
outside of a middle range. An infinity or a missing double has no spelling and is null. -/
def floatText (value : Float) : List Char :=
  match Binary64.shape value with
  | .notANumber | .infinite _ => ['n', 'u', 'l', 'l']
  | .finite negative significand exponent =>
      Binary64.signText negative ++
        if significand = 0 then ['0', '.', '0']
        else
          let shortest := Binary64.Shortest.ofFinite .toEven significand exponent
          let digits := Text.Digits.write shortest.digits
          let leading : Int := digits.length + shortest.exponent - 1
          if -5 ≤ leading ∧ leading < 16 then
            Binary64.positional shortest ++ if shortest.exponent < 0 then [] else ['.', '0']
          else
            digits.take 1 ++ (if digits.length = 1 then [] else '.' :: digits.drop 1) ++
              'e' :: (if leading < 0 then '-' else '+') :: Text.Digits.write leading.natAbs

end GroupedReport.Json
