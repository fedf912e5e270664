import GroupedReport.Decimal.Basic

/-!
# Decimal arithmetic

A sum, difference or product is computed exactly and then fitted into 96 bits and 28 places. A
quotient is developed by long division, several places at a time, until it ends or the
coefficient is full. Where an operation has no result, the true result is too large.
-/

namespace GroupedReport.Decimal

-- Powers are those of the core library, whatever else is imported.
attribute [local instance (high)] instPowNat

def surplus (magnitude : Nat) : Nat :=
  if magnitude < 2 ^ (96 : Nat) then 0 else surplus (magnitude / 10) + 1
termination_by magnitude
decreasing_by omega

def dropDigits? (negative : Bool) (magnitude scale dropped : Nat) : Option Decimal :=
  let coefficient := Rounding.nearest .toEven magnitude (10 ^ dropped)
  if bounds : coefficient < 2 ^ (96 : Nat) ∧ dropped ≤ scale ∧ scale - dropped ≤ 28 then
    some ⟨negative, coefficient, scale - dropped, bounds.1, bounds.2.2⟩
  else none

/-- The decimal for `magnitude / 10 ^ scale`, with as many places as fit. Rounding may carry
into one digit more, which costs one place more. -/
def fit? (negative : Bool) (magnitude scale : Nat) : Option Decimal :=
  let dropped := max (surplus magnitude) (scale - 28)
  dropDigits? negative magnitude scale dropped <|>
    dropDigits? negative magnitude scale (dropped + 1)

def exactSum? (left right : Decimal) : Option Decimal :=
  let scale := max left.scale right.scale
  let sum := left.signed * 10 ^ (scale - left.scale) + right.signed * 10 ^ (scale - right.scale)
  fit? (decide (sum < 0)) sum.natAbs scale

/-- The sum. A zero operand gives the other one back with its own scale. -/
def add? (left right : Decimal) : Option Decimal :=
  if left.isZero then some right
  else if right.isZero then some left
  else exactSum? left right

def subtract? (left right : Decimal) : Option Decimal :=
  if left.isZero then some (if right.isZero then right else right.negate)
  else if right.isZero then some left
  else exactSum? left right.negate

def isShort (value : Decimal) : Bool :=
  value.coefficient < 2 ^ (32 : Nat)

/-- The product. A product of zero is plain zero. One that is only rounded to zero keeps its sign
if a coefficient has more than 32 bits, and has none otherwise. Two coefficients of 32 bits whose
scales add up to more than 47 leave nothing within 28 places. -/
def multiply? (left right : Decimal) : Option Decimal :=
  let scale := left.scale + right.scale
  let short := left.isShort && right.isShort
  if left.isZero || right.isZero then some zero
  else if short ∧ 47 < scale then some zero
  else
    let magnitude := left.coefficient * right.coefficient
    (fit? (left.negative != right.negative) magnitude scale).map fun product =>
      if short && product.isZero then { product with negative := false } else product

example : multiply? ⟨true, 1, 28, by decide, by decide⟩ ⟨false, 1, 1, by decide, by decide⟩ =
    some ⟨false, 0, 28, by decide, by decide⟩ := by cbv

/-! ## Long division -/

/-- A quotient whose scale may still be negative. `inexact` says that the division did not end
in whole numbers. -/
structure Quotient where
  coefficient : Nat
  scale : Int
  inexact : Bool

def room (coefficient : Nat) : Nat → Nat
  | 0 => 0
  | limit + 1 =>
      if coefficient * 10 ^ (limit + 1) < 2 ^ (96 : Nat) then limit + 1 else room coefficient limit

/-- Take one digit off a coefficient that has become too large, rounding half to even. A rest
below the coefficient makes a tie go up. -/
def shorten? (coefficient : Nat) (scale : Int) (rest : Bool) : Option Quotient :=
  if scale ≤ 0 then none
  else
    let last := coefficient % 10
    let shorter := coefficient / 10
    let up := last > 5 || last == 5 && (rest || shorter % 2 == 1)
    some ⟨if up then shorter + 1 else shorter, scale - 1, true⟩

def roundRemainder? (divisor quotient remainder : Nat) (scale : Int) : Option Quotient :=
  let up := 2 * remainder > divisor || 2 * remainder == divisor && quotient % 2 == 1
  if up then
    if quotient + 1 < 2 ^ (96 : Nat) then some ⟨quotient + 1, scale, true⟩
    else shorten? (quotient + 1) scale true
  else some ⟨quotient, scale, true⟩

def divideFrom? (divisor quotient remainder : Nat) (scale : Int) (inexact : Bool) :
    Option Quotient :=
  if remainder = 0 then
    if 0 ≤ scale then some ⟨quotient, scale, inexact⟩
    else
      let power := min 9 (-scale).toNat
      if quotient * 10 ^ power < 2 ^ (96 : Nat) then
        divideFrom? divisor (quotient * 10 ^ power) 0 (scale + power) inexact
      else none
  else
    let limit := min 9 (28 - scale).toNat
    let power := room quotient limit
    if power < limit ∧ scale + power < 0 then none
    else if 28 ≤ scale ∨ power = 0 then roundRemainder? divisor quotient remainder scale
    else
      let extended := remainder * 10 ^ power
      let longer := quotient * 10 ^ power + extended / divisor
      if longer < 2 ^ (96 : Nat) then
        divideFrom? divisor longer (extended % divisor) (scale + power) true
      else shorten? longer (scale + power) (extended % divisor != 0)
termination_by (28 - scale).toNat
decreasing_by
  · omega
  · have unfinished : ¬(28 ≤ scale ∨ room quotient (min 9 (28 - scale).toNat) = 0) := by assumption
    omega

def stripBlock (quotient : Quotient) (places lowBits : Nat) : Quotient :=
  if (places : Int) ≤ quotient.scale ∧ quotient.coefficient % 2 ^ lowBits = 0 ∧
      quotient.coefficient % 10 ^ places = 0 then
    { quotient with
      coefficient := quotient.coefficient / 10 ^ places
      scale := quotient.scale - places }
  else quotient

/-- The blocks of final zeros that are looked for after a division, with the low bits that have
to be zero. Eight zeros are only removed together if 32 bits are zero, so some zeros may stay. -/
def zeroBlocks : List (Nat × Nat) :=
  [(8, 32), (8, 32), (8, 32), (4, 4), (2, 2), (1, 1)]

def stripZeros (quotient : Quotient) : Quotient :=
  zeroBlocks.foldl (fun current block => stripBlock current block.1 block.2) quotient

def divide? (left right : Decimal) : Option Decimal :=
  if left.isZero then some zero
  else
    let scale : Int := left.scale - right.scale
    let first := left.coefficient / right.coefficient
    let remainder := left.coefficient % right.coefficient
    (divideFrom? right.coefficient first remainder scale false).bind fun quotient =>
      let final := if quotient.inexact then stripZeros quotient else quotient
      if bounds : final.coefficient < 2 ^ (96 : Nat) ∧ final.scale.toNat ≤ 28 then
        let negative := left.negative != right.negative && final.coefficient != 0
        some ⟨negative, final.coefficient, final.scale.toNat, bounds.1, bounds.2⟩
      else none

end GroupedReport.Decimal
