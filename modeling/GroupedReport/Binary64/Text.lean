import GroupedReport.Binary64.Shortest
import GroupedReport.Text.Blank

/-!
# The text of a double

Doubles are written with the fewest digits that read back. Plain text never has an exponent.
A plain number may be read with an exponent, and is rounded to the nearest double.
-/

namespace GroupedReport.Binary64

-- Powers are those of the core library, whatever else is imported.
attribute [local instance (high)] instPowNat

def positional (shortest : Shortest) : List Char :=
  let digits := Text.Digits.write shortest.digits
  let places := (-shortest.exponent).toNat
  if places = 0 then digits ++ List.replicate shortest.exponent.toNat '0'
  else
    let padded := List.replicate (places + 1 - digits.length) '0' ++ digits
    padded.take (padded.length - places) ++ '.' :: padded.drop (padded.length - places)

def signText (negative : Bool) : List Char :=
  if negative then ['-'] else []

/-- The text of a double: no exponent, and no fraction for a whole number. -/
def plainText (value : Float) : String :=
  match shape value with
  | .notANumber => "NaN"
  | .infinite negative => if negative then "-inf" else "inf"
  | .finite negative significand exponent =>
      .ofList <| signText negative ++
        if significand = 0 then ['0'] else positional (.ofFinite .up significand exponent)

/-- The double nearest to `digits * 10 ^ exponent`. An exponent far outside the range of a
double is settled without computing the power. -/
def ofDecimal (negative : Bool) (digits : Nat) (exponent : Int) : Float :=
  let places : Int := Text.Digits.count digits + exponent
  if digits = 0 ∨ places < -400 then zero negative
  else if 400 < places then infinity negative
  else nearest negative (digits * 10 ^ exponent.toNat) (10 ^ (-exponent).toNat)

def readSign : List Char → Bool × List Char
  | '-' :: rest => (true, rest)
  | '+' :: rest => (false, rest)
  | text => (false, text)

def readExponent? : List Char → Option Int
  | [] => some 0
  | mark :: text =>
      if mark = 'e' ∨ mark = 'E' then
        let (negative, digits) := readSign text
        (Text.Digits.read? digits).map fun (magnitude : Nat) =>
          if negative then -(magnitude : Int) else magnitude
      else none

def readDecimal? (negative : Bool) (text : List Char) : Option Float :=
  let (whole, rest) := Text.Digits.split text
  let (fraction, rest) := match rest with
    | '.' :: rest => Text.Digits.split rest
    | _ => ([], rest)
  if whole.isEmpty && fraction.isEmpty then none
  else (readExponent? rest).map fun exponent =>
    ofDecimal negative (Text.Digits.value (whole ++ fraction)) (exponent - fraction.length)

/-- Read a double: an optional sign, then a decimal or one of `inf`, `infinity` and `nan` in
any case. Blanks around the number are not accepted. -/
def read? (text : List Char) : Option Float :=
  let (negative, text) := readSign text
  let word := text.map Char.toLower
  if word = "inf".toList ∨ word = "infinity".toList then some (infinity negative)
  else if word = "nan".toList then some notANumber
  else readDecimal? negative text

end GroupedReport.Binary64
