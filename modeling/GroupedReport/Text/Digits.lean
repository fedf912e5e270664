/-!
# Decimal digits

Natural numbers written in base ten, and the number that a list of digits stands for.
-/

namespace GroupedReport.Text.Digits

def digit (number : Nat) : Char :=
  Char.ofNat (48 + number)

def digitValue (character : Char) : Nat :=
  character.toNat - 48

/-- The digits of a number, most significant first, without leading zeros. -/
def write (number : Nat) : List Char :=
  if number < 10 then [digit number]
  else write (number / 10) ++ [digit (number % 10)]
termination_by number
decreasing_by omega

def numeral (number : Nat) : String := .ofList (write number)

/-- The number that a list of digits stands for; no digit stands for zero. -/
def value (digits : List Char) : Nat :=
  digits.foldl (fun number character => number * 10 + digitValue character) 0

def count (number : Nat) : Nat :=
  (write number).length

def padded (width number : Nat) : List Char :=
  let digits := write number
  List.replicate (width - digits.length) '0' ++ digits

def writeInt : Int → List Char
  | .ofNat number => write number
  | .negSucc number => '-' :: write (number + 1)

def read? (text : List Char) : Option Nat :=
  if text.isEmpty then none
  else if text.all Char.isDigit then some (value text)
  else none

def split (text : List Char) : List Char × List Char :=
  (text.takeWhile Char.isDigit, text.dropWhile Char.isDigit)

example : value ['0', '4', '2'] = 42 := rfl

@[simp] theorem split_append (text : List Char) : (split text).1 ++ (split text).2 = text := by
  simp [split]

theorem length_split (text : List Char) :
    (split text).1.length + (split text).2.length = text.length := by
  rw [← List.length_append, split_append]

theorem value_append_singleton (digits : List Char) (character : Char) :
    value (digits ++ [character]) = value digits * 10 + digitValue character := by
  simp [value]

theorem digitValue_digit {number : Nat} (small : number < 10) :
    digitValue (digit number) = number := by
  have cases : number = 0 ∨ number = 1 ∨ number = 2 ∨ number = 3 ∨ number = 4 ∨ number = 5 ∨
      number = 6 ∨ number = 7 ∨ number = 8 ∨ number = 9 := by omega
  rcases cases with rfl | rfl | rfl | rfl | rfl | rfl | rfl | rfl | rfl | rfl <;> rfl

@[simp] theorem value_write (number : Nat) : value (write number) = number := by
  fun_induction write number with
  | case1 number small => simp [value, digitValue_digit small]
  | case2 number _ induction =>
      rw [value_append_singleton, induction,
        digitValue_digit (Nat.mod_lt number (by decide))]
      omega

theorem isDigit_digit {number : Nat} (small : number < 10) :
    (digit number).isDigit = true := by
  have cases : number = 0 ∨ number = 1 ∨ number = 2 ∨ number = 3 ∨ number = 4 ∨ number = 5 ∨
      number = 6 ∨ number = 7 ∨ number = 8 ∨ number = 9 := by omega
  rcases cases with rfl | rfl | rfl | rfl | rfl | rfl | rfl | rfl | rfl | rfl <;> rfl

theorem isDigit_of_mem_write {number : Nat} {character : Char}
    (member : character ∈ write number) : character.isDigit = true := by
  fun_induction write number with
  | case1 number small =>
      simp only [List.mem_singleton] at member
      exact member ▸ isDigit_digit small
  | case2 number _ induction =>
      simp only [List.mem_append, List.mem_singleton] at member
      rcases member with front | last
      · exact induction front
      · exact last ▸ isDigit_digit (Nat.mod_lt number (by decide))

@[simp] theorem write_ne_nil (number : Nat) : write number ≠ [] := by
  unfold write
  split <;> simp

@[simp] theorem read?_write (number : Nat) : read? (write number) = some number := by
  have digits : (write number).all Char.isDigit = true :=
    List.all_eq_true.mpr fun _ member => isDigit_of_mem_write member
  simp [read?, digits]

end GroupedReport.Text.Digits
