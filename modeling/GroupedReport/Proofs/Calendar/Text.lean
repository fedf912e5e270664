import GroupedReport.Calendar.Text
import GroupedReport.Proofs.Text.Digits

/-!
# The text of a point in time is read back

Each item of the text is read by the reader of that item, with what follows it left over. The
reader of moments with an offset comes first, but the text has no offset, so it refuses.
-/

namespace GroupedReport.DateTime

-- Powers are those of the core library, whatever else is imported.
attribute [local instance (high)] instPowNat

open Calendar
open Text.Digits (padded EndsDigits endsDigits_nil endsDigits_cons)

/-! ## Items -/

section

variable {rest : List Char} (ends : EndsDigits rest)

include ends

theorem number?_digits {least most : Nat} {digits : List Char}
    (allDigits : ∀ character ∈ digits, character.isDigit = true)
    (enough : least ≤ digits.length) (room : digits.length ≤ most) :
    number? least most (digits ++ rest) = some (Text.Digits.value digits, rest) := by
  have taken : ((digits ++ rest).take most).takeWhile Char.isDigit = digits := by
    rw [List.take_append, List.take_of_length_le room]
    exact Text.Digits.takeWhile_isDigit_append allDigits (ends.take _)
  have notShort : ¬ digits.length < least := Nat.not_lt.mpr enough
  rw [number?, taken]
  change (if _ then _ else _) = _
  rw [if_neg notShort, List.drop_left]

theorem number?_mark {least : Nat} (positive : 0 < least) (most : Nat) :
    number? least most rest = none := by
  have noDigits : (rest.take most).takeWhile Char.isDigit = [] :=
    (ends.take most).takeWhile_eq_nil
  rw [number?, noDigits]
  exact if_pos positive

theorem number?_padded {least most width number : Nat} (small : number < 10 ^ width)
    (positive : 0 < width) (enough : least ≤ width) (room : width ≤ most) :
    number? least most (padded width number ++ rest) = some (number, rest) := by
  have length := Text.Digits.length_padded small positive
  rw [number?_digits ends (fun _ => Text.Digits.isDigit_of_mem_padded) (by omega) (by omega),
    Text.Digits.value_padded]

theorem shortNumber?_padded {number : Nat} (small : number < 100) :
    shortNumber? (padded 2 number ++ rest) = some (number, rest) := by
  rw [shortNumber?, Text.trimLeft_padded]
  exact number?_padded ends small (by decide) (by decide) (by decide)

theorem number?_signed (number : Nat) :
    number? 1 (padded 4 number ++ rest).length (padded 4 number ++ rest) = some (number, rest) := by
  have enough := Text.Digits.le_length_padded 4 number
  have room : (padded 4 number).length ≤ (padded 4 number ++ rest).length := by
    rw [List.length_append]
    exact Nat.le_add_right _ _
  rw [number?_digits ends (fun _ => Text.Digits.isDigit_of_mem_padded) (by omega) room,
    Text.Digits.value_padded]

theorem year?_text (year : Int) : year? (yearText year ++ rest) = some (year, rest) := by
  rw [yearText]
  split
  case isTrue negative =>
    have same : -(year.natAbs : Int) = year := by omega
    rw [year?, List.cons_append, Text.trimLeft_cons rfl]
    change (number? 1 _ _).map _ = _
    rw [number?_signed ends, Option.map_some]
    exact congrArg (fun year => some (year, rest)) same
  case isFalse notNegative =>
    have same : (year.natAbs : Int) = year := by omega
    split
    case isTrue =>
      rw [year?, List.cons_append, Text.trimLeft_cons rfl]
      change (number? 1 _ _).map _ = _
      rw [number?_signed ends, Option.map_some]
      exact congrArg (fun year => some (year, rest)) same
    case isFalse fourDigits =>
      have small : year.natAbs < 10 ^ (4 : Nat) := by omega
      have read : number? 1 4 (padded 4 year.natAbs ++ rest) = some (year.natAbs, rest) :=
        number?_padded ends small (by decide) (by decide) (by decide)
      rcases Text.Digits.padded_eq_cons 4 year.natAbs with ⟨first, others, digits, digit⟩
      rw [digits, List.cons_append] at read
      rw [digits, year?, List.cons_append, Text.trimLeft_cons (Text.isBlank_of_isDigit digit)]
      split
      case h_1 equal =>
        cases equal
        cases digit
      case h_2 equal =>
        cases equal
        cases digit
      case h_3 =>
        rw [read, Option.map_some]
        exact congrArg (fun year => some (year, rest)) same

end

@[simp] theorem character?_cons (mark : Char) (rest : List Char) :
    character? mark (mark :: rest) = some ((), rest) :=
  if_pos rfl

theorem fraction?_padded {width number : Nat} (small : number < 10 ^ width) (positive : 0 < width)
    (atMost : width ≤ 9) :
    fraction? ('.' :: padded width number) = some (number * 10 ^ (9 - width), []) := by
  have length := Text.Digits.length_padded small positive
  have digits := Text.Digits.takeWhile_isDigit_padded width number
  have notEmpty : (padded width number).isEmpty = false := by
    rcases Text.Digits.padded_eq_cons width number with ⟨_, _, equal, _⟩
    rw [equal]
    rfl
  have kept : (padded width number).take 9 = padded width number :=
    List.take_of_length_le (by omega)
  have noneLeft : (padded width number).drop width = [] :=
    List.drop_of_length_le (by omega)
  simp only [fraction?, digits, kept, notEmpty, length, noneLeft, Text.Digits.value_padded,
    Bool.false_eq_true, if_false]

theorem fraction?_text {nanosecond : Nat} (below : nanosecond < 10 ^ (9 : Nat)) :
    fraction? (fractionText nanosecond) = some (nanosecond, []) := by
  rw [fractionText]
  split
  case isTrue zero => rw [zero]; rfl
  case isFalse =>
    split
    case isTrue millis =>
      rw [fraction?_padded (by omega) (by decide) (by decide)]
      congr 2
      omega
    case isFalse =>
      split
      case isTrue micros =>
        rw [fraction?_padded (by omega) (by decide) (by decide)]
        congr 2
        omega
      case isFalse =>
        rw [fraction?_padded below (by decide) (by decide), Nat.sub_self, Nat.pow_zero,
          Nat.mul_one]

/-! ## Dates -/

theorem daysInMonth_le (year : Int) (month : Nat) : daysInMonth year month ≤ 31 := by
  unfold daysInMonth
  split
  case h_12 => split <;> decide
  all_goals decide

theorem daysInMonth_add (year : Int) (extra : Nat) : daysInMonth year (extra + 13) = 0 :=
  rfl

theorem month_le_of_isDate {year : Int} {month day : Nat} (valid : isDate year month day = true) :
    month ≤ 12 := by
  rcases of_decide_eq_true valid with ⟨_, _, atLeast, atMost⟩
  apply Nat.le_of_not_lt
  intro beyond
  rcases Nat.exists_eq_add_of_le' beyond with ⟨extra, rfl⟩
  rw [daysInMonth_add] at atMost
  omega

theorem day_le_of_isDate {year : Int} {month day : Nat} (valid : isDate year month day = true) :
    day ≤ 31 := by
  rcases of_decide_eq_true valid with ⟨_, _, _, atMost⟩
  exact Nat.le_trans atMost (daysInMonth_le year month)

def dateText (date : Date) (rest : List Char) : List Char :=
  yearText date.year ++ '-' :: (padded 2 date.month ++ '-' :: (padded 2 date.day ++ rest))

theorem ofNumbers?_date (date : Date) :
    Date.ofNumbers? date.year date.month date.day = some date :=
  dif_pos date.valid

theorem month_lt (date : Date) : date.month < 100 :=
  Nat.lt_of_le_of_lt (month_le_of_isDate date.valid) (by decide)

theorem day_lt (date : Date) : date.day < 100 :=
  Nat.lt_of_le_of_lt (day_le_of_isDate date.valid) (by decide)

theorem date?_text (date : Date) {rest : List Char} (ends : EndsDigits rest) :
    date? noGap (dateText date rest) = some (date, rest) := by
  have hyphen (rest : List Char) : EndsDigits ('-' :: rest) := endsDigits_cons rfl rest
  simp only [date?, dateText, noGap, year?_text (hyphen _),
    shortNumber?_padded (hyphen _) (month_lt date), shortNumber?_padded ends (day_lt date),
    character?_cons, ofNumbers?_date, Option.bind_eq_bind, Option.bind_some]

/-! ## Times of day -/

variable (moment : DateTime)

def timeText : List Char :=
  padded 2 moment.hour ++ ':' :: (padded 2 moment.minute ++ ':' ::
    (padded 2 moment.second ++ fractionText moment.nanosecond))

theorem ofNumbers?_moment :
    ofNumbers? moment.date moment.hour moment.minute moment.second moment.nanosecond =
      some moment :=
  dif_pos ⟨moment.hour_lt, moment.minute_lt, moment.second_le, moment.nanosecond_lt⟩

theorem endsDigits_fractionText (nanosecond : Nat) : EndsDigits (fractionText nanosecond) := by
  rw [fractionText]
  split
  · exact endsDigits_nil
  · split
    · exact endsDigits_cons rfl _
    · split <;> exact endsDigits_cons rfl _

theorem time_lt : moment.hour < 100 ∧ moment.minute < 100 ∧ moment.second < 100 :=
  ⟨Nat.lt_trans moment.hour_lt (by decide), Nat.lt_trans moment.minute_lt (by decide),
    Nat.lt_of_le_of_lt moment.second_le (by decide)⟩

theorem time?_text : time? noGap moment.date moment.timeText = some (moment, []) := by
  rcases moment.time_lt with ⟨hour, minute, second⟩
  have colon (rest : List Char) : EndsDigits (':' :: rest) := endsDigits_cons rfl rest
  have ends := endsDigits_fractionText moment.nanosecond
  simp only [time?, timeText, noGap, shortNumber?_padded (colon _) hour,
    shortNumber?_padded (colon _) minute, shortNumber?_padded ends second, character?_cons,
    fraction?_text moment.nanosecond_lt, ofNumbers?_moment, Option.bind_eq_bind,
    Option.bind_some]

/-! ## Points in time -/

theorem text_eq : moment.text = dateText moment.date ('T' :: moment.timeText) := by
  simp only [text, dateText, timeText, List.append_assoc, List.cons_append]

theorem readParts?_text : readParts? noGap (character? 'T') moment.text = some moment := by
  have mark : EndsDigits ('T' :: moment.timeText) := endsDigits_cons rfl _
  simp only [readParts?, text_eq, date?_text moment.date mark, noGap, character?_cons, time?_text,
    Option.bind_eq_bind, Option.bind_some, List.isEmpty_nil, if_true]

theorem bind_eq_none {item : Option α} {next : α → Option β} {taken : α}
    (read : item = some taken) (fails : next taken = none) : item >>= next = none := by
  rw [read]
  exact fails

theorem readWithOffset?_text : readWithOffset? moment.text = none := by
  rcases moment.time_lt with ⟨hour, minute, second⟩
  have ends := endsDigits_fractionText moment.nanosecond
  have hyphen (rest : List Char) : EndsDigits ('-' :: rest) := endsDigits_cons rfl rest
  have plus (rest : List Char) : EndsDigits ('+' :: rest) := endsDigits_cons rfl rest
  have letter (rest : List Char) : EndsDigits ('T' :: rest) := endsDigits_cons rfl rest
  have colon (rest : List Char) : EndsDigits (':' :: rest) := endsDigits_cons rfl rest
  have two {number : Nat} (small : number < 100) {rest : List Char} (ends : EndsDigits rest) :
      number? 2 2 (padded 2 number ++ rest) = some (number, rest) :=
    number?_padded ends small (by decide) (by decide) (by decide)
  rw [text_eq, dateText, yearText, readWithOffset?]
  split
  case isTrue => rw [List.cons_append, number?_mark (hyphen _) (by decide)]; rfl
  case isFalse notNegative =>
    split
    case isTrue => rw [List.cons_append, number?_mark (plus _) (by decide)]; rfl
    case isFalse fourDigits =>
      have year : moment.date.year.natAbs < 10 ^ (4 : Nat) := by omega
      -- Everything up to the offset is read, and then the text is at its end.
      refine bind_eq_none (number?_padded (hyphen _) year (by decide) (by decide) (by decide)) ?_
      refine bind_eq_none (character?_cons '-' _) ?_
      refine bind_eq_none (two (month_lt _) (hyphen _)) ?_
      refine bind_eq_none (character?_cons '-' _) ?_
      refine bind_eq_none (two (day_lt _) (letter _)) ?_
      refine bind_eq_none rfl ?_
      refine bind_eq_none (two hour (colon _)) ?_
      refine bind_eq_none (character?_cons ':' _) ?_
      refine bind_eq_none (two minute (colon _)) ?_
      refine bind_eq_none (character?_cons ':' _) ?_
      refine bind_eq_none (two second ends) ?_
      refine bind_eq_none (fraction?_text moment.nanosecond_lt) ?_
      rfl

theorem read?_text : read? moment.text = some moment := by
  rw [read?, readWithOffset?_text, readParts?_text]
  rfl

theorem solid_yearText (year : Int) : Text.Solid (yearText year) := by
  have digits := Text.solid_padded 4 year.natAbs
  rw [yearText]
  split
  · exact Text.solid_cons rfl digits
  · split
    · exact Text.solid_cons rfl digits
    · exact digits

theorem solid_fractionText (nanosecond : Nat) : Text.Solid (fractionText nanosecond) := by
  have behindPoint (width number : Nat) : Text.Solid ('.' :: padded width number) :=
    Text.solid_cons rfl (Text.solid_padded width number)
  rw [fractionText]
  split
  · exact Text.solid_nil
  · split
    · exact behindPoint _ _
    · split <;> exact behindPoint _ _

theorem trim_text : Text.trim moment.text = moment.text := by
  have number (number : Nat) {rest : List Char} (solid : Text.Solid rest) :
      Text.Solid (padded 2 number ++ rest) := (Text.solid_padded 2 number).append solid
  have time : Text.Solid moment.timeText :=
    number _ (Text.solid_cons rfl (number _ (Text.solid_cons rfl
      (number _ (solid_fractionText moment.nanosecond)))))
  have behindYear : Text.Solid ('-' :: (padded 2 moment.date.month ++ '-' ::
      (padded 2 moment.date.day ++ 'T' :: moment.timeText))) :=
    Text.solid_cons rfl (number _ (Text.solid_cons rfl (number _ (Text.solid_cons rfl time))))
  rw [text_eq]
  exact ((solid_yearText moment.date.year).append behindYear).trim_eq

end GroupedReport.DateTime
