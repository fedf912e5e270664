import GroupedReport.Text.Blank
import GroupedReport.Text.Digits

/-!
# Digits inside a text

A number that is padded to a width is found again by a reader that takes digits off the front of
a text, if what follows does not begin with a digit. Digits and the marks between them are not
blank, so nothing is trimmed from them.
-/

namespace GroupedReport.Text

-- Powers are those of the core library, whatever else is imported.
attribute [local instance (high)] instPowNat

namespace Digits

/-! ## The number of some digits -/

def continued (number : Nat) (digits : List Char) : Nat :=
  digits.foldl (fun number character => number * 10 + digitValue character) number

theorem continued_append (number : Nat) (front back : List Char) :
    continued number (front ++ back) = continued (continued number front) back :=
  List.foldl_append

theorem le_continued (number : Nat) (digits : List Char) : number ≤ continued number digits := by
  induction digits generalizing number with
  | nil => exact Nat.le_refl number
  | cons first rest induction =>
      have step : number ≤ number * 10 + digitValue first := by omega
      exact Nat.le_trans step (induction _)

theorem continued_zeros (count : Nat) : continued 0 (List.replicate count '0') = 0 := by
  induction count with
  | zero => rfl
  | succ count induction => exact induction

/-! ## Padding -/

@[simp] theorem value_padded (width number : Nat) : value (padded width number) = number := by
  have zeros := continued_zeros (width - (write number).length)
  change continued 0 (padded width number) = number
  rw [padded, continued_append, zeros]
  exact value_write number

theorem isDigit_of_mem_padded {width number : Nat} {character : Char}
    (member : character ∈ padded width number) : character.isDigit = true := by
  rcases List.mem_append.mp member with zero | digit
  · rw [List.eq_of_mem_replicate zero]
    rfl
  · exact isDigit_of_mem_write digit

theorem length_write_le {width number : Nat} (small : number < 10 ^ width)
    (positive : 0 < width) : (write number).length ≤ width := by
  induction width generalizing number with
  | zero => exact absurd positive (Nat.lt_irrefl 0)
  | succ width induction =>
      rw [write]
      split
      · exact Nat.succ_le_succ (Nat.zero_le width)
      case isFalse large =>
        have shorter : number / 10 < 10 ^ width := by
          rw [Nat.pow_succ] at small
          omega
        have left : 0 < width := by
          apply Nat.pos_of_ne_zero
          rintro rfl
          exact large small
        rw [List.length_append]
        exact Nat.succ_le_succ (induction shorter left)

theorem le_length_padded (width number : Nat) : width ≤ (padded width number).length := by
  rw [padded, List.length_append, List.length_replicate]
  omega

theorem length_padded {width number : Nat} (small : number < 10 ^ width)
    (positive : 0 < width) : (padded width number).length = width := by
  have fits := length_write_le small positive
  rw [padded, List.length_append, List.length_replicate]
  omega

theorem padded_eq_cons (width number : Nat) :
    ∃ first others, padded width number = first :: others ∧ first.isDigit = true := by
  cases digits : padded width number with
  | nil => exact absurd (List.append_eq_nil_iff.mp digits).2 (write_ne_nil number)
  | cons first others =>
      have member : first ∈ padded width number := by
        rw [digits]
        exact List.mem_cons_self
      exact ⟨first, others, rfl, isDigit_of_mem_padded member⟩

/-! ## Digits in front of something else -/

def EndsDigits (rest : List Char) : Prop :=
  ∀ character ∈ rest.head?, character.isDigit = false

theorem endsDigits_nil : EndsDigits [] := nofun

theorem endsDigits_cons {mark : Char} (noDigit : mark.isDigit = false) (rest : List Char) :
    EndsDigits (mark :: rest) := by
  rintro _ ⟨⟩
  exact noDigit

theorem EndsDigits.take {rest : List Char} (ends : EndsDigits rest) (count : Nat) :
    EndsDigits (rest.take count) := by
  cases count with
  | zero => exact endsDigits_nil
  | succ count =>
      cases rest with
      | nil => exact endsDigits_nil
      | cons mark rest => exact endsDigits_cons (ends mark rfl) _

theorem EndsDigits.takeWhile_eq_nil {rest : List Char} (ends : EndsDigits rest) :
    rest.takeWhile Char.isDigit = [] := by
  cases rest with
  | nil => rfl
  | cons mark rest => exact List.takeWhile_cons_of_neg (Bool.eq_false_iff.mp (ends mark rfl))

theorem takeWhile_isDigit_append {digits rest : List Char}
    (allDigits : ∀ character ∈ digits, character.isDigit = true) (ends : EndsDigits rest) :
    (digits ++ rest).takeWhile Char.isDigit = digits := by
  rw [List.takeWhile_append_of_pos allDigits, ends.takeWhile_eq_nil, List.append_nil]

theorem takeWhile_isDigit_of_digits {digits : List Char}
    (allDigits : ∀ character ∈ digits, character.isDigit = true) :
    digits.takeWhile Char.isDigit = digits := by
  have alone : (digits ++ []).takeWhile Char.isDigit = digits :=
    takeWhile_isDigit_append allDigits endsDigits_nil
  rwa [List.append_nil] at alone

theorem takeWhile_isDigit_padded (width number : Nat) :
    (padded width number).takeWhile Char.isDigit = padded width number :=
  takeWhile_isDigit_of_digits fun _ => isDigit_of_mem_padded

theorem split_of_digits {digits : List Char}
    (allDigits : ∀ character ∈ digits, character.isDigit = true) : split digits = (digits, []) := by
  have whole := split_append digits
  have front : (split digits).1 = digits := takeWhile_isDigit_of_digits allDigits
  rw [front, List.append_right_eq_self] at whole
  exact Prod.ext front whole

end Digits

/-! ## What is not trimmed -/

theorem isBlank_of_isDigit {character : Char} (digit : character.isDigit = true) :
    isBlank character = false := by
  simp only [Char.isDigit, Bool.and_eq_true, decide_eq_true_eq, UInt32.le_iff_toNat_le] at digit
  simp only [isBlank, Char.toNat, Bool.or_eq_false_iff, Bool.and_eq_false_iff, beq_eq_false_iff_ne,
    decide_eq_false_iff_not]
  have low : 48 ≤ character.val.toNat := digit.1
  have high : character.val.toNat ≤ 57 := digit.2
  omega

theorem trimLeft_cons {first : Char} (seen : isBlank first = false) (rest : List Char) :
    trimLeft (first :: rest) = first :: rest :=
  List.dropWhile_cons_of_neg (Bool.eq_false_iff.mp seen)

theorem trimLeft_padded (width number : Nat) (rest : List Char) :
    trimLeft (Digits.padded width number ++ rest) = Digits.padded width number ++ rest := by
  rcases Digits.padded_eq_cons width number with ⟨first, others, digits, digit⟩
  rw [digits, List.cons_append]
  exact trimLeft_cons (isBlank_of_isDigit digit) _

def Solid (text : List Char) : Prop :=
  ∀ character ∈ text, isBlank character = false

theorem solid_nil : Solid [] := nofun

theorem solid_cons {first : Char} (seen : isBlank first = false) {rest : List Char}
    (solid : Solid rest) : Solid (first :: rest) :=
  List.forall_mem_cons.mpr ⟨seen, solid⟩

theorem Solid.append {front back : List Char} (first : Solid front) (second : Solid back) :
    Solid (front ++ back) :=
  List.forall_mem_append.mpr ⟨first, second⟩

theorem solid_of_isDigit {digits : List Char}
    (allDigits : ∀ character ∈ digits, character.isDigit = true) : Solid digits :=
  fun character member => isBlank_of_isDigit (allDigits character member)

theorem solid_padded (width number : Nat) : Solid (Digits.padded width number) :=
  solid_of_isDigit fun _ => Digits.isDigit_of_mem_padded

theorem solid_writeInt (number : Int) : Solid (Digits.writeInt number) := by
  have digits (number : Nat) : Solid (Digits.write number) :=
    solid_of_isDigit fun _ => Digits.isDigit_of_mem_write
  cases number with
  | ofNat number => exact digits number
  | negSucc number => exact solid_cons rfl (digits (number + 1))

theorem Solid.trimLeft_eq {text : List Char} (solid : Solid text) : trimLeft text = text := by
  cases text with
  | nil => rfl
  | cons first rest => exact trimLeft_cons (solid first List.mem_cons_self) rest

theorem Solid.trim_eq {text : List Char} (solid : Solid text) : trim text = text := by
  have reversed : Solid text.reverse := fun character member =>
    solid character (List.mem_reverse.mp member)
  rw [trim, solid.trimLeft_eq, reversed.trimLeft_eq, List.reverse_reverse]

end GroupedReport.Text
