import GroupedReport.Calendar.DateTime
import GroupedReport.Text.Blank
import GroupedReport.Text.Digits

/-!
# The text of a point in time

A point in time is written as `2024-03-01T10:20:30.500`. A reader takes items off the front of a
text one after the other; several layouts of these items are accepted.
-/

namespace GroupedReport.DateTime

-- Powers are those of the core library, whatever else is imported.
attribute [local instance (high)] instPowNat

open Calendar

/-! ## Writing -/

/-- The year: four digits, behind a sign where they would not suffice. -/
def yearText (year : Int) : List Char :=
  let digits := Text.Digits.padded 4 year.natAbs
  if year < 0 then '-' :: digits
  else if 9999 < year then '+' :: digits
  else digits

/-- The fraction of a second: nothing, or the fewest of three, six or nine digits. -/
def fractionText (nanosecond : Nat) : List Char :=
  if nanosecond = 0 then []
  else if nanosecond % 1000000 = 0 then '.' :: Text.Digits.padded 3 (nanosecond / 1000000)
  else if nanosecond % 1000 = 0 then '.' :: Text.Digits.padded 6 (nanosecond / 1000)
  else '.' :: Text.Digits.padded 9 nanosecond

def text (moment : DateTime) : List Char :=
  let two := Text.Digits.padded 2
  yearText moment.date.year ++ '-' :: two moment.date.month ++ '-' :: two moment.date.day ++
    'T' :: two moment.hour ++ ':' :: two moment.minute ++ ':' :: two moment.second ++
    fractionText moment.nanosecond

/-! ## Reading items -/

/-- What an item takes off the front of a text, with the rest. -/
abbrev Item (α : Type) := List Char → Option (α × List Char)

def number? (least most : Nat) : Item Nat := fun text =>
  let digits := (text.take most).takeWhile Char.isDigit
  if digits.length < least then none
  else some (Text.Digits.value digits, text.drop digits.length)

def character? (expected : Char) : Item Unit
  | first :: rest => if first = expected then some ((), rest) else none
  | [] => none

def blanks? : Item Unit := fun text => some ((), Text.trimLeft text)

def shortNumber? : Item Nat := fun text => number? 1 2 (Text.trimLeft text)

/-- A year after optional blanks: up to four digits, or a sign and any number of digits. -/
def year? : Item Int := fun text =>
  match Text.trimLeft text with
  | '-' :: rest => (number? 1 rest.length rest).map fun (year, rest) => (-(year : Int), rest)
  | '+' :: rest => (number? 1 rest.length rest).map fun (year, rest) => ((year : Int), rest)
  | rest => (number? 1 4 rest).map fun (year, rest) => ((year : Int), rest)

/-- A fraction of a second behind a point, in nanoseconds; digits beyond the ninth are
skipped. -/
def fraction? : Item Nat
  | '.' :: rest =>
      let digits := rest.takeWhile Char.isDigit
      let kept := digits.take 9
      if digits.isEmpty then none
      else some (Text.Digits.value kept * 10 ^ (9 - kept.length), rest.drop digits.length)
  | rest => some (0, rest)

def offset? : Item Int
  | first :: rest =>
      if first = 'Z' ∨ first = 'z' then some (0, rest)
      else if first = '+' ∨ first = '-' ∨ first = '\u2212' then do
        let (hours, rest) ← number? 2 2 rest
        let (_, rest) ← character? ':' rest
        let (minutes, rest) ← number? 2 2 rest
        let total : Int := hours * 60 + minutes
        if 60 ≤ minutes ∨ 1440 ≤ total then none
        else some (if first = '+' then total else -total, rest)
      else none
  | [] => none

/-! ## Layouts -/

def readWithOffset? (text : List Char) : Option DateTime := do
  let (year, text) ← number? 4 4 text
  let (_, text) ← character? '-' text
  let (month, text) ← number? 2 2 text
  let (_, text) ← character? '-' text
  let (day, text) ← number? 2 2 text
  let (_, text) ← character? 'T' text <|> character? 't' text <|> character? ' ' text
  let (hour, text) ← number? 2 2 text
  let (_, text) ← character? ':' text
  let (minute, text) ← number? 2 2 text
  let (_, text) ← character? ':' text
  let (second, text) ← number? 2 2 text
  let (nanosecond, text) ← fraction? text
  let (offset, text) ← offset? text
  let date ← Date.ofNumbers? year month day
  let moment ← ofNumbers? date hour minute second nanosecond
  if text.isEmpty then moment.backMinutes? offset else none

/-- A date whose numbers need not have their full width. `gap` may come before a hyphen. -/
def date? (gap : Item Unit) : Item Date := fun text => do
  let (year, text) ← year? text
  let (_, text) ← gap text
  let (_, text) ← character? '-' text
  let (month, text) ← shortNumber? text
  let (_, text) ← gap text
  let (_, text) ← character? '-' text
  let (day, text) ← shortNumber? text
  let date ← Date.ofNumbers? year month day
  some (date, text)

def time? (gap : Item Unit) (date : Date) : Item DateTime := fun text => do
  let (hour, text) ← shortNumber? text
  let (_, text) ← gap text
  let (_, text) ← character? ':' text
  let (minute, text) ← shortNumber? text
  let (_, text) ← gap text
  let (_, text) ← character? ':' text
  let (second, text) ← shortNumber? text
  let (nanosecond, text) ← fraction? text
  let moment ← ofNumbers? date hour minute second nanosecond
  some (moment, text)

def noGap : Item Unit := fun text => some ((), text)

def readParts? (gap separator : Item Unit) (text : List Char) : Option DateTime := do
  let (date, text) ← date? gap text
  let (_, text) ← gap text
  let (_, text) ← separator text
  let (moment, text) ← time? gap date text
  let (_, text) ← gap text
  if text.isEmpty then some moment else none

def readDate? (text : List Char) : Option DateTime := do
  let (date, text) ← date? noGap text
  if text.isEmpty then some (atMidnight date) else none

/-- Read a point in time: with an offset, which is taken off; with a `T` or blanks between date
and time; or a bare date. -/
def read? (text : List Char) : Option DateTime :=
  readWithOffset? text <|>
    readParts? noGap (character? 'T') text <|>
    readParts? noGap blanks? text <|>
    readDate? text

def readCanonical? (text : List Char) : Option DateTime :=
  readParts? blanks? (character? 'T') text

end GroupedReport.DateTime
