import GroupedReport.Rounding

/-!
# Doubles as exact numbers

A double is read as what its bits say: not a number, an infinity, or a sign with a significand
times a power of two. In the other direction `nearest` gives the double closest to a quotient of
natural numbers. Both directions use natural numbers alone, so nothing is lost on the way.
-/

namespace GroupedReport.Binary64

-- Powers are those of the core library, whatever else is imported.
attribute [local instance (high)] instPowNat

/-- What the bits of a double say. A finite double is its significand times two to its
exponent, with its sign. -/
inductive Shape where
  | notANumber
  | infinite (negative : Bool)
  | finite (negative : Bool) (significand : Nat) (exponent : Int)
deriving DecidableEq, Repr

def minExponent : Int := -1074

def shapeOfBits (bits : Nat) : Shape :=
  let negative := decide (2 ^ (63 : Nat) ≤ bits)
  let biased : Nat := bits / 2 ^ (52 : Nat) % 2 ^ (11 : Nat)
  let fraction : Nat := bits % 2 ^ (52 : Nat)
  if biased = 2047 then if fraction = 0 then .infinite negative else .notANumber
  else if biased = 0 then .finite negative fraction minExponent
  else .finite negative (fraction + 2 ^ (52 : Nat)) ((biased : Int) - 1075)

def shape (value : Float) : Shape :=
  shapeOfBits value.toBits.toNat

def ofMagnitudeBits (negative : Bool) (bits : Nat) : Float :=
  .ofBits (UInt64.ofNat ((if negative then 2 ^ (63 : Nat) else 0) + bits))

def zero (negative : Bool) : Float :=
  ofMagnitudeBits negative 0

def infinity (negative : Bool) : Float :=
  ofMagnitudeBits negative (2047 * 2 ^ (52 : Nat))

def notANumber : Float :=
  ofMagnitudeBits false (2047 * 2 ^ (52 : Nat) + 2 ^ (51 : Nat))

def least : Float :=
  ofMagnitudeBits true (2047 * 2 ^ (52 : Nat) - 1)

/-- `numerator / (denominator * 2 ^ exponent)`, rounded to a nearest whole number. -/
def scaledSignificand (numerator denominator : Nat) (exponent : Int) : Nat :=
  Rounding.nearest .toEven (numerator * 2 ^ (-exponent).toNat)
    (denominator * 2 ^ exponent.toNat)

/-- The exponent for which `numerator / denominator` has a significand of 53 bits, or the
least exponent if that is greater. -/
def scaleExponent (numerator denominator : Nat) : Int :=
  let estimate : Int := (numerator.log2 : Int) - denominator.log2 - 53
  let exponent :=
    if numerator * 2 ^ (-estimate).toNat < 2 ^ (53 : Nat) * (denominator * 2 ^ estimate.toNat)
    then estimate else estimate + 1
  max exponent minExponent

/-- The double nearest to `numerator / denominator`, a tie going to the even significand. A
quotient beyond the greatest double gives infinity. -/
def nearest (negative : Bool) (numerator denominator : Nat) : Float :=
  if numerator = 0 then zero negative
  else
    let exponent := scaleExponent numerator denominator
    let significand := scaledSignificand numerator denominator exponent
    let bits := (exponent - minExponent).toNat * 2 ^ (52 : Nat) + significand
    if 2047 * 2 ^ (52 : Nat) ≤ bits then infinity negative else ofMagnitudeBits negative bits

def ofNat (number : Nat) : Float :=
  nearest false number 1

def ofInt (number : Int) : Float :=
  nearest (decide (number < 0)) number.natAbs 1

def wholeMagnitude (tie : Rounding.Tie) (significand : Nat) (exponent : Int) : Nat :=
  Rounding.nearest tie (significand * 2 ^ exponent.toNat) (2 ^ (-exponent).toNat)

def toInt? (value : Float) : Option Int :=
  match shape value with
  | .finite negative significand exponent =>
      let magnitude : Int := wholeMagnitude .toEven significand exponent
      some (if negative then -magnitude else magnitude)
  | _ => none

/-- A nonnegative double rounded to a whole double, a tie going up. -/
def roundUp (value : Float) : Float :=
  match shape value with
  | .finite negative significand exponent =>
      nearest negative (wholeMagnitude .up significand exponent) 1
  | _ => value

def isNegative (value : Float) : Bool :=
  decide (2 ^ (63 : Nat) ≤ value.toBits.toNat)

example : shapeOfBits 0x3ff8000000000000 = .finite false (3 * 2 ^ (51 : Nat)) (-52) := by decide

end GroupedReport.Binary64
