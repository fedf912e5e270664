/-!
# Dates

Days of the proleptic Gregorian calendar, in a fixed range of years.
-/

namespace GroupedReport.Calendar

def isLeapYear (year : Int) : Bool :=
  year % 4 == 0 && (year % 100 != 0 || year % 400 == 0)

def daysInMonth (year : Int) : Nat → Nat
  | 1 | 3 | 5 | 7 | 8 | 10 | 12 => 31
  | 4 | 6 | 9 | 11 => 30
  | 2 => if isLeapYear year then 29 else 28
  | _ => 0

def firstYear : Int := -262143

def lastYear : Int := 262142

def isDate (year : Int) (month day : Nat) : Bool :=
  decide (firstYear ≤ year ∧ year ≤ lastYear ∧ 1 ≤ day ∧ day ≤ daysInMonth year month)

structure Date where
  year : Int
  month : Nat
  day : Nat
  valid : isDate year month day = true
deriving DecidableEq, Repr

namespace Date

def ofNumbers? (year : Int) (month day : Nat) : Option Date :=
  if valid : isDate year month day = true then some ⟨year, month, day, valid⟩ else none

def first : Date := ⟨firstYear, 1, 1, by decide⟩

instance : Inhabited Date := ⟨first⟩

def next? (date : Date) : Option Date :=
  ofNumbers? date.year date.month (date.day + 1) <|>
    ofNumbers? date.year (date.month + 1) 1 <|>
    ofNumbers? (date.year + 1) 1 1

def previous? (date : Date) : Option Date :=
  if 1 < date.day then ofNumbers? date.year date.month (date.day - 1)
  else if 1 < date.month then
    ofNumbers? date.year (date.month - 1) (daysInMonth date.year (date.month - 1))
  else ofNumbers? (date.year - 1) 12 31

def compare (left right : Date) : Ordering :=
  (Ord.compare left.year right.year).then
    ((Ord.compare left.month right.month).then (Ord.compare left.day right.day))

end Date

example : isDate 2024 2 29 = true := by decide
example : isDate 1900 2 29 = false := by decide
example : ((Date.ofNumbers? 2024 3 1).bind Date.previous?).map Date.day = some 29 := by decide

end GroupedReport.Calendar
