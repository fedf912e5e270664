import GroupedReport.Decimal.Arithmetic

/-!
# The text of a decimal

A decimal is written with exactly its scale of digits behind the point. Reading accepts the plain
form, with underscores between digits, and the form with a power of ten.
-/

namespace GroupedReport.Decimal

-- Powers are those of the core library, whatever else is imported.
attribute [local instance (high)] instPowNat

/-- The text of a decimal: a minus sign for a negative one, also for a negative zero. -/
def text (value : Decimal) : List Char :=
  let digits := Text.Digits.padded (value.scale + 1) value.coefficient
  let whole := digits.take (digits.length - value.scale)
  let fraction := digits.drop (digits.length - value.scale)
  (if value.negative then ['-'] else []) ++ whole ++
    (if value.scale = 0 then [] else '.' :: fraction)

example : text ⟨true, 5, 2, by decide, by decide⟩ = ['-', '0', '.', '0', '5'] := by cbv

def unsignedZero? (negative : Bool) (coefficient scale : Nat) : Option Decimal :=
  if bounds : coefficient < 2 ^ (96 : Nat) ∧ scale ≤ 28 then
    some ⟨negative && coefficient != 0, coefficient, scale, bounds.1, bounds.2⟩
  else none

/-- Add one to the last digit of a coefficient. If there is no room for it, the last digit is
rounded away instead. -/
def roundUp? (negative : Bool) (coefficient scale : Nat) : Option Decimal :=
  if coefficient + 1 < 2 ^ (96 : Nat) then unsignedZero? negative (coefficient + 1) scale
  else if scale = 0 then none
  else unsignedZero? negative ((coefficient + 1 + 4) / 10) (scale - 1)

def isFractionPart (character : Char) : Bool :=
  character.isDigit || character == '_'

/-- Coefficients below this bound have been read in a word of 64 bits to their last digit. -/
def wordBound : Nat := 18446744073709549060

/-- The digit that decides how a complete coefficient is rounded. Underscores in front of it are
passed over, but where the coefficient is short, one of them counts as zero. -/
def decidingDigit (coefficient : Nat) (rest : List Char) : Nat :=
  let deciding := if coefficient < wordBound then rest else rest.dropWhile (· == '_')
  match deciding.head? with
  | some character => if character.isDigit then Text.Digits.digitValue character else 0
  | none => 0

example : decidingDigit wordBound ['_', '5'] = 5 ∧ decidingDigit 1 ['_', '5'] = 0 := by decide

def roundRest? (negative : Bool) (coefficient scale : Nat) (rest : List Char) : Option Decimal :=
  if !rest.all isFractionPart then none
  else if decidingDigit coefficient rest < 5 then unsignedZero? negative coefficient scale
  else roundUp? negative coefficient scale

/-- Read the digits behind the point. When 28 places are filled, or when the next digit does
not fit, what follows is rounded away. -/
def readFraction? (negative : Bool) (coefficient scale : Nat) (seenDigit : Bool) :
    List Char → Option Decimal
  | [] => if seenDigit then unsignedZero? negative coefficient scale else none
  | character :: rest =>
      if scale = 28 then roundRest? negative coefficient scale (character :: rest)
      else if character.isDigit then
        let longer := coefficient * 10 + Text.Digits.digitValue character
        if longer < 2 ^ (96 : Nat) then readFraction? negative longer (scale + 1) true rest
        else roundRest? negative coefficient scale (character :: rest)
      else if character = '_' ∧ seenDigit then
        readFraction? negative coefficient scale seenDigit rest
      else none

def readWhole? (negative : Bool) (coefficient : Nat) (seenDigit : Bool) :
    List Char → Option Decimal
  | [] => if seenDigit then unsignedZero? negative coefficient 0 else none
  | character :: rest =>
      if character.isDigit then
        let longer := coefficient * 10 + Text.Digits.digitValue character
        if longer < 2 ^ (96 : Nat) then readWhole? negative longer true rest else none
      else if character = '.' then readFraction? negative coefficient 0 seenDigit rest
      else if character = '_' ∧ seenDigit then readWhole? negative coefficient seenDigit rest
      else none

def readPlain? : List Char → Option Decimal
  | '-' :: rest => readWhole? true 0 false rest
  | '+' :: rest => readWhole? false 0 false rest
  | text => readWhole? false 0 false text

def normalizeZeros (coefficient : Nat) : Nat → Nat × Nat
  | 0 => (coefficient, 0)
  | scale + 1 =>
      if coefficient % 10 = 0 then normalizeZeros (coefficient / 10) scale
      else (coefficient, scale + 1)

def normalized? (value : Decimal) : Option Decimal :=
  let (coefficient, scale) := normalizeZeros value.coefficient value.scale
  unsignedZero? value.negative coefficient scale

def powerOfTen? (exponent : Nat) : Option Decimal :=
  ofNat? false (10 ^ exponent)

def shiftRight? (value : Decimal) (places : Nat) : Option Decimal :=
  if bounds : places ≤ 28 ∧ value.scale + places ≤ 28 then
    some { value with scale := value.scale + places, scale_le := bounds.2 }
  else none

def shiftLeft? (value : Decimal) (places : Nat) : Option Decimal :=
  if places ≤ value.scale then unsignedZero? value.negative value.coefficient (value.scale - places)
  else if 28 < places then none
  else do
    let shifted ←
      if places ≤ 19 then multiply? value (← powerOfTen? places)
      else multiply? (← multiply? value (← powerOfTen? 19)) (← powerOfTen? (places - 19))
    normalized? shifted

def readPlaces? (text : List Char) : Option Nat :=
  let digits := match text with
    | '+' :: rest => rest
    | _ => text
  (Text.Digits.read? digits).filter fun places => places < 2 ^ (32 : Nat)

def readScientific? (text : List Char) : Option Decimal := do
  let isMark (character : Char) : Bool := character == 'e' || character == 'E'
  let base ← readPlain? (text.takeWhile (!isMark ·))
  match text.dropWhile (!isMark ·) with
  | _ :: '-' :: places => shiftRight? base (← readPlaces? places)
  | _ :: places => shiftLeft? base (← readPlaces? places)
  | [] => none

def read? (text : List Char) : Option Decimal :=
  readPlain? text <|> readScientific? text

end GroupedReport.Decimal
