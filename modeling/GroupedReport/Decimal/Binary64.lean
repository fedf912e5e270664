import GroupedReport.Decimal.Basic
import GroupedReport.Binary64.Basic

/-!
# Decimals and doubles

A whole double becomes the decimal of the same number. A double with a fraction becomes a decimal
by turning its negative power of two into a power of ten within 96 bits; what is left is cut to
the precision of a double. A decimal becomes a double by adding its whole part and its fraction
as doubles, and rounding the sum to the places of the decimal.
-/

namespace GroupedReport.Decimal

-- Powers are those of the core library, whatever else is imported.
attribute [local instance (high)] instPowNat

/-- A number on its way to a decimal: `coefficient * 10 ^ power`. -/
structure Scaled where
  coefficient : Nat
  power : Int
deriving DecidableEq, Repr

namespace Scaled

/-- Exchange a half for five tenths. An even coefficient is halved instead; an odd one is
multiplied by five if there is room, and loses a bit if not. -/
def halve (scaled : Scaled) : Scaled :=
  if scaled.coefficient % 2 = 0 then ⟨scaled.coefficient / 2, scaled.power + 1⟩
  else if scaled.coefficient * 5 < 2 ^ (96 : Nat) then ⟨scaled.coefficient * 5, scaled.power⟩
  else ⟨scaled.coefficient / 2, scaled.power + 1⟩

def dropDigit (scaled : Scaled) : Scaled :=
  let carry := if 5 ≤ scaled.coefficient % 10 then 1 else 0
  ⟨scaled.coefficient / 10 + carry, scaled.power + 1⟩

def stepWhile (condition : Scaled → Bool) (step : Scaled → Scaled) : Nat → Scaled → Scaled
  | 0, scaled => scaled
  | count + 1, scaled =>
      if condition scaled then stepWhile condition step count (step scaled) else scaled

def ofFraction (significand places : Nat) : Scaled :=
  stepWhile (fun _ => true) halve places ⟨significand, -places⟩

/-- Bring a power below -28 up to -28. What is then below one digit is zero. -/
def raisePower (scaled : Scaled) : Scaled :=
  let raised := stepWhile (fun current => decide (10 ≤ current.coefficient)) dropDigit
    (-28 - scaled.power).toNat scaled
  if raised.power < -28 then ⟨0, 0⟩ else raised

def cutFraction (scaled : Scaled) : Scaled :=
  stepWhile (fun current => decide (2 ^ (52 : Nat) ≤ current.coefficient)) dropDigit
    (-scaled.power).toNat scaled

def stripFraction (scaled : Scaled) : Scaled :=
  stepWhile (fun current => current.coefficient % 10 == 0)
    (fun current => ⟨current.coefficient / 10, current.power + 1⟩)
    (-scaled.power).toNat scaled

end Scaled

def ofFraction? (negative : Bool) (significand places : Nat) : Option Decimal :=
  let scaled := (Scaled.ofFraction significand places).raisePower.cutFraction.stripFraction
  if bounds : scaled.coefficient < 2 ^ (96 : Nat) ∧ (-scaled.power).toNat ≤ 28 ∧
      scaled.power ≤ 0 then
    some ⟨negative, scaled.coefficient, (-scaled.power).toNat, bounds.1, bounds.2.1⟩
  else none

/-- The decimal for a finite double, unless it is too large. A zero keeps its sign. -/
def ofFloat? (value : Float) : Option Decimal :=
  match Binary64.shape value with
  | .finite negative significand exponent =>
      if significand = 0 then some { zero with negative := negative }
      else if 0 ≤ exponent then ofNat? negative (significand * 2 ^ exponent.toNat)
      else ofFraction? negative significand (-exponent).toNat
  | _ => none

/-- The double for a magnitude: its whole part and its fraction are converted one by one, and
the sum is rounded to the places of the decimal. -/
def magnitudeToFloat (coefficient scale : Nat) : Float :=
  let whole := Binary64.ofNat (coefficient / 10 ^ scale)
  let fraction := Binary64.ofNat (coefficient % 10 ^ scale) / Binary64.ofNat (10 ^ scale)
  if fraction == Binary64.zero false then whole
  else
    let unit := Binary64.ofNat (10 ^ scale)
    Binary64.roundUp ((whole + fraction) * unit) / unit

def toFloat (value : Decimal) : Float :=
  if value.scale = 0 then Binary64.ofInt value.signed
  else
    let magnitude := magnitudeToFloat value.coefficient value.scale
    if value.negative then -magnitude else magnitude

end GroupedReport.Decimal
