import GroupedReport.Binary64.Basic
import GroupedReport.Text.Digits

/-!
# The fewest digits that read back

Among the decimals that are nearer to a double than to any other double, those with the fewest
digits are sought, and of these the one nearest to the double. All is exact: the double, its
neighbours and the decimals are compared as quotients of natural numbers.
-/

namespace GroupedReport.Binary64

-- Powers are those of the core library, whatever else is imported.
attribute [local instance (high)] instPowNat

/-- A positive decimal: its digits as a number, times ten to the exponent. -/
structure Shortest where
  digits : Nat
  exponent : Int
deriving DecidableEq, Repr

namespace Shortest

def strip (digits : Nat) (exponent : Int) : Shortest :=
  if digits = 0 ∨ digits % 10 ≠ 0 then ⟨digits, exponent⟩
  else strip (digits / 10) (exponent + 1)
termination_by digits
decreasing_by omega

/-- The quotients that read as one double: the double itself and the two ends of its interval
over one denominator, and whether the ends belong to it. -/
structure Interval where
  low : Nat
  value : Nat
  high : Nat
  denominator : Nat
  closed : Bool

/-- The interval of a positive double. Its ends lie halfway to the neighbouring doubles; the
lower neighbour of a power of two is nearer. The ends read as the double if its significand is
even. -/
def interval (significand : Nat) (exponent : Int) : Interval :=
  let power := 2 ^ exponent.toNat
  let nearBelow := decide (significand = 2 ^ (52 : Nat) ∧ minExponent < exponent)
  { low := (4 * significand - if nearBelow then 1 else 2) * power
    value := 4 * significand * power
    high := (4 * significand + 2) * power
    denominator := 4 * 2 ^ (-exponent).toNat
    closed := decide (significand % 2 = 0) }

namespace Interval

def contains (bounds : Interval) (candidate : Nat) (exponent : Int) : Bool :=
  let scaled := candidate * 10 ^ exponent.toNat * bounds.denominator
  let unit := 10 ^ (-exponent).toNat
  if bounds.closed then
    decide (bounds.low * unit ≤ scaled ∧ scaled ≤ bounds.high * unit)
  else decide (bounds.low * unit < scaled ∧ scaled < bounds.high * unit)

/-- How many digits the double has in front of the decimal point; zero or less for a double
below one. -/
def position (bounds : Interval) : Int :=
  (Text.Digits.count (bounds.value * 10 ^ (400 : Nat) / bounds.denominator) : Int) - 400

/-- The decimal with the given number of digits that reads as the double, if there is one; the
nearer one if there are two. -/
def withDigits? (tie : Rounding.Tie) (bounds : Interval) (count : Nat) : Option Shortest :=
  let exponent := bounds.position - count
  let numerator := bounds.value * 10 ^ (-exponent).toNat
  let denominator := bounds.denominator * 10 ^ exponent.toNat
  let lower := numerator / denominator
  match bounds.contains lower exponent, bounds.contains (lower + 1) exponent with
  | true, true => some (strip (Rounding.nearest tie numerator denominator) exponent)
  | true, false => some (strip lower exponent)
  | false, true => some (strip (lower + 1) exponent)
  | false, false => none

end Interval

/-- The shortest decimal of a positive double; seventeen digits always suffice. -/
def ofFinite (tie : Rounding.Tie) (significand : Nat) (exponent : Int) : Shortest :=
  let bounds := interval significand exponent
  ((List.range 17).findSome? fun count => bounds.withDigits? tie (count + 1)).getD
    ⟨significand, exponent⟩

end Shortest

end GroupedReport.Binary64
