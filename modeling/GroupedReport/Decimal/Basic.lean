import GroupedReport.Rounding
import GroupedReport.Text.Digits

/-!
# Decimals

A decimal is a coefficient of at most 96 bits with a sign, and a scale from 0 to 28 that counts
the digits behind the point. The scale is kept: 1.5 and 1.50 are different decimals that stand
for the same number. So are 0 and -0.
-/

namespace GroupedReport

-- Powers are those of the core library, whatever else is imported.
attribute [local instance (high)] instPowNat

/-- `coefficient / 10 ^ scale`, with a sign. -/
structure Decimal where
  negative : Bool
  coefficient : Nat
  scale : Nat
  coefficient_lt : coefficient < 2 ^ (96 : Nat)
  scale_le : scale ≤ 28
deriving DecidableEq, Repr

namespace Decimal

def signed (value : Decimal) : Int :=
  if value.negative then -(value.coefficient : Int) else value.coefficient

def isZero (value : Decimal) : Bool :=
  value.coefficient == 0

def ofNat? (negative : Bool) (coefficient : Nat) : Option Decimal :=
  if small : coefficient < 2 ^ (96 : Nat) then some ⟨negative, coefficient, 0, small, by omega⟩
  else none

def zero : Decimal := ⟨false, 0, 0, by decide, by decide⟩

def one : Decimal := ⟨false, 1, 0, by decide, by decide⟩

def least : Decimal := ⟨true, 2 ^ (96 : Nat) - 1, 0, by decide, by decide⟩

instance : Inhabited Decimal := ⟨zero⟩

def ofInt32 (value : Int32) : Decimal :=
  ⟨decide (value.toInt < 0), value.toInt.natAbs, 0, by
    have lower := value.le_toInt
    have upper := value.toInt_lt
    omega, by omega⟩

/-- The opposite sign, also of zero. -/
def negate (value : Decimal) : Decimal :=
  { value with negative := !value.negative }

def compare (left right : Decimal) : Ordering :=
  Ord.compare (left.signed * 10 ^ right.scale) (right.signed * 10 ^ left.scale)

def sameNumber (left right : Decimal) : Bool :=
  left.signed * 10 ^ right.scale == right.signed * 10 ^ left.scale

def toInt (value : Decimal) : Int :=
  let magnitude : Int := Rounding.nearest .toEven value.coefficient (10 ^ value.scale)
  if value.negative then -magnitude else magnitude

def int32Least : Int := -2147483648

def int32Greatest : Int := 2147483647

def toInt32? (value : Decimal) : Option Int32 :=
  if int32Least ≤ value.toInt ∧ value.toInt ≤ int32Greatest
  then some (Int32.ofInt value.toInt) else none

example : compare ⟨false, 150, 2, by decide, by decide⟩ ⟨false, 15, 1, by decide, by decide⟩ =
    .eq := by decide

end Decimal

end GroupedReport
