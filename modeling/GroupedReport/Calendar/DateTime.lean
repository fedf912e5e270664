import GroupedReport.Calendar.Date

/-!
# Points in time

A date with a time of day, to the nanosecond and without a time zone. The second may be the 60th,
that of a leap second.
-/

namespace GroupedReport

-- Powers are those of the core library, whatever else is imported.
attribute [local instance (high)] instPowNat

open Calendar

structure DateTime where
  date : Date
  hour : Nat
  minute : Nat
  second : Nat
  nanosecond : Nat
  hour_lt : hour < 24
  minute_lt : minute < 60
  second_le : second ≤ 60
  nanosecond_lt : nanosecond < 10 ^ (9 : Nat)
deriving DecidableEq, Repr

namespace DateTime

def atMidnight (date : Date) : DateTime :=
  ⟨date, 0, 0, 0, 0, by decide, by decide, by decide, by decide⟩

def least : DateTime := atMidnight .first

instance : Inhabited DateTime := ⟨least⟩

def ofNumbers? (date : Date) (hour minute second nanosecond : Nat) : Option DateTime :=
  if bounds : hour < 24 ∧ minute < 60 ∧ second ≤ 60 ∧ nanosecond < 10 ^ (9 : Nat) then
    some ⟨date, hour, minute, second, nanosecond,
      bounds.1, bounds.2.1, bounds.2.2.1, bounds.2.2.2⟩
  else none

def compare (left right : DateTime) : Ordering :=
  (left.date.compare right.date).then
    ((Ord.compare left.hour right.hour).then
      ((Ord.compare left.minute right.minute).then
        ((Ord.compare left.second right.second).then
          (Ord.compare left.nanosecond right.nanosecond))))

/-- Go back a number of minutes, less than a day in either direction. The second stays. -/
def backMinutes? (moment : DateTime) (minutes : Int) : Option DateTime :=
  let total : Int := moment.hour * 60 + moment.minute - minutes
  let date? :=
    if total < 0 then moment.date.previous?
    else if 1440 ≤ total then moment.date.next?
    else some moment.date
  let ofDay := (total % 1440).toNat
  date?.bind fun date =>
    ofNumbers? date (ofDay / 60) (ofDay % 60) moment.second moment.nanosecond

end DateTime

end GroupedReport
