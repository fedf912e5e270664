import GroupedReport.Decimal.Text
import GroupedReport.Proofs.Text.Digits

/-!
# The text of a decimal is read back

The reader goes over the digits in front of the point and then over those behind it. It has room
for all of them, because the decimal had: the coefficient grows to the coefficient of the decimal,
and the scale to its scale. Only the sign of a zero is not read back.
-/

namespace GroupedReport.Decimal

-- Powers are those of the core library, whatever else is imported.
attribute [local instance (high)] instPowNat

open Text.Digits (continued)

/-- The decimal that is read from the text of a decimal: a zero has no sign. -/
def withoutSignOfZero (value : Decimal) : Decimal :=
  { value with negative := value.negative && value.coefficient != 0 }

theorem signed_withoutSignOfZero (value : Decimal) :
    value.withoutSignOfZero.signed = value.signed := by
  by_cases zero : value.coefficient = 0 <;> simp [signed, withoutSignOfZero, zero]

theorem sameNumber_withoutSignOfZero (value : Decimal) :
    value.withoutSignOfZero.sameNumber value = true := by
  rw [sameNumber, signed_withoutSignOfZero]
  exact beq_self_eq_true _

theorem unsignedZero?_eq (value : Decimal) :
    unsignedZero? value.negative value.coefficient value.scale = some value.withoutSignOfZero :=
  dif_pos ⟨value.coefficient_lt, value.scale_le⟩

/-! ## Reading digits -/

section

variable {negative : Bool} {coefficient : Nat} {digits : List Char}
  (allDigits : ∀ character ∈ digits, character.isDigit = true)
  (fits : continued coefficient digits < 2 ^ (96 : Nat))

include allDigits fits

theorem readWhole?_digits (seenDigit : Bool) (rest : List Char) :
    readWhole? negative coefficient seenDigit (digits ++ rest) =
      readWhole? negative (continued coefficient digits) (seenDigit || !digits.isEmpty) rest := by
  induction digits generalizing coefficient seenDigit with
  | nil => rw [List.isEmpty_nil, Bool.not_true, Bool.or_false]; rfl
  | cons first others induction =>
      have digit : first.isDigit = true := allDigits first List.mem_cons_self
      have room : coefficient * 10 + Text.Digits.digitValue first < 2 ^ (96 : Nat) :=
        Nat.lt_of_le_of_lt (Text.Digits.le_continued _ others) fits
      have otherDigits : ∀ character ∈ others, character.isDigit = true := fun character member =>
        allDigits character (List.mem_cons_of_mem first member)
      rw [List.cons_append, readWhole?, if_pos digit]
      change (if _ then _ else _) = _
      rw [if_pos room, induction otherDigits fits true]
      simp only [List.isEmpty_cons, Bool.not_false, Bool.or_true, Bool.true_or]
      rfl

theorem readFraction?_digits {scale : Nat} (places : scale + digits.length ≤ 28) :
    readFraction? negative coefficient scale true digits =
      unsignedZero? negative (continued coefficient digits) (scale + digits.length) := by
  induction digits generalizing coefficient scale with
  | nil => rfl
  | cons first others induction =>
      have digit : first.isDigit = true := allDigits first List.mem_cons_self
      have room : coefficient * 10 + Text.Digits.digitValue first < 2 ^ (96 : Nat) :=
        Nat.lt_of_le_of_lt (Text.Digits.le_continued _ others) fits
      have otherDigits : ∀ character ∈ others, character.isDigit = true := fun character member =>
        allDigits character (List.mem_cons_of_mem first member)
      rw [List.length_cons] at places ⊢
      have notFull : scale ≠ 28 := by omega
      rw [readFraction?, if_neg notFull, if_pos digit]
      change (if _ then _ else _) = _
      rw [if_pos room, induction otherDigits fits (by omega)]
      congr 1
      omega

end

/-! ## Reading a decimal -/

def wholeDigits (value : Decimal) : List Char :=
  let digits := Text.Digits.padded (value.scale + 1) value.coefficient
  digits.take (digits.length - value.scale)

def fractionDigits (value : Decimal) : List Char :=
  let digits := Text.Digits.padded (value.scale + 1) value.coefficient
  digits.drop (digits.length - value.scale)

variable (value : Decimal)

theorem text_eq : value.text = (if value.negative then ['-'] else []) ++ (value.wholeDigits ++
    if value.scale = 0 then [] else '.' :: value.fractionDigits) :=
  List.append_assoc _ _ _

theorem isDigit_of_mem_wholeDigits {character : Char} (member : character ∈ value.wholeDigits) :
    character.isDigit = true :=
  Text.Digits.isDigit_of_mem_padded (List.mem_of_mem_take member)

theorem isDigit_of_mem_fractionDigits {character : Char}
    (member : character ∈ value.fractionDigits) : character.isDigit = true :=
  Text.Digits.isDigit_of_mem_padded (List.mem_of_mem_drop member)

theorem length_fractionDigits : value.fractionDigits.length = value.scale := by
  have enough := Text.Digits.le_length_padded (value.scale + 1) value.coefficient
  rw [fractionDigits, List.length_drop]
  omega

theorem wholeDigits_ne_nil : value.wholeDigits ≠ [] := by
  have enough := Text.Digits.le_length_padded (value.scale + 1) value.coefficient
  apply List.ne_nil_of_length_pos
  rw [wholeDigits, List.length_take]
  omega

theorem continued_digits :
    continued (continued 0 value.wholeDigits) value.fractionDigits = value.coefficient := by
  rw [← Text.Digits.continued_append, wholeDigits, fractionDigits, List.take_append_drop]
  exact Text.Digits.value_padded _ _

theorem wholeDigits_lt : continued 0 value.wholeDigits < 2 ^ (96 : Nat) := by
  have least := Text.Digits.le_continued (continued 0 value.wholeDigits) value.fractionDigits
  rw [continued_digits] at least
  exact Nat.lt_of_le_of_lt least value.coefficient_lt

theorem readWhole?_text (negative : Bool) :
    readWhole? negative 0 false (value.wholeDigits ++
        if value.scale = 0 then [] else '.' :: value.fractionDigits) =
      unsignedZero? negative value.coefficient value.scale := by
  have seen : (!value.wholeDigits.isEmpty) = true := by
    simpa using value.wholeDigits_ne_nil
  have digits := value.continued_digits
  rw [readWhole?_digits (fun _ => value.isDigit_of_mem_wholeDigits) value.wholeDigits_lt, seen,
    Bool.or_true]
  split
  case isTrue whole =>
    have empty : value.fractionDigits = [] :=
      List.eq_nil_of_length_eq_zero (value.length_fractionDigits.trans whole)
    rw [empty] at digits
    rw [readWhole?, if_pos rfl, whole, ← digits]
    rfl
  case isFalse =>
    have fits : continued (continued 0 value.wholeDigits) value.fractionDigits < 2 ^ (96 : Nat) :=
      digits ▸ value.coefficient_lt
    have places : 0 + value.fractionDigits.length ≤ 28 := by
      rw [length_fractionDigits, Nat.zero_add]
      exact value.scale_le
    rw [readWhole?, if_neg (by decide), if_pos rfl,
      readFraction?_digits (fun _ => value.isDigit_of_mem_fractionDigits) fits places, digits,
      length_fractionDigits, Nat.zero_add]

theorem readPlain?_cons {first : Char} (digit : first.isDigit = true) (rest : List Char) :
    readPlain? (first :: rest) = readWhole? false 0 false (first :: rest) := by
  rw [readPlain?]
  · rintro _ ⟨⟩
    cases digit
  · rintro _ ⟨⟩
    cases digit

theorem readPlain?_text : readPlain? value.text = some value.withoutSignOfZero := by
  rw [← unsignedZero?_eq, ← readWhole?_text, text_eq]
  cases value.negative with
  | true => rfl
  | false =>
      cases whole : value.wholeDigits with
      | nil => exact absurd whole value.wholeDigits_ne_nil
      | cons first others =>
          have member : first ∈ value.wholeDigits := by
            rw [whole]
            exact List.mem_cons_self
          exact readPlain?_cons (value.isDigit_of_mem_wholeDigits member) _

theorem read?_text : read? value.text = some value.withoutSignOfZero := by
  rw [read?, readPlain?_text]
  rfl

theorem trim_text : Text.trim value.text = value.text := by
  have sign : Text.Solid (if value.negative then ['-'] else []) := by
    split
    · exact Text.solid_cons rfl Text.solid_nil
    · exact Text.solid_nil
  have whole := Text.solid_of_isDigit fun _ => value.isDigit_of_mem_wholeDigits
  have fraction : Text.Solid (if value.scale = 0 then [] else '.' :: value.fractionDigits) := by
    split
    · exact Text.solid_nil
    · exact Text.solid_cons rfl (Text.solid_of_isDigit fun _ => value.isDigit_of_mem_fractionDigits)
  rw [text_eq]
  exact (sign.append (whole.append fraction)).trim_eq

end GroupedReport.Decimal
