import GroupedReport.Text.LetterCaseTables

/-!
# Letter case

The lower-case form of a text by the rules of the Unicode standard. One letter has two lower-case
forms: the Greek sigma is written differently at the end of a word.
-/

namespace GroupedReport.Text

def lowerCharacter (character : Char) : Char :=
  let point := character.toNat
  if point < 128 then character.toLower
  else match lowerCaseRuns.find? (·.contains point) with
    | some run => Char.ofNat (point + run.distance).toNat
    | none => character

/-- Whether the first character that is not skipped is a cased letter. -/
def beginsWithLetter (text : List Char) : Bool :=
  match text.dropWhile (inRanges caseIgnorableRanges ·.toNat) with
  | first :: _ => inRanges casedRanges first.toNat
  | [] => false

/-- The lower-case form of a text that follows the characters `before`, last first. A sigma
behind a letter and not in front of one is the final one. -/
def lowerAfter (before : List Char) : List Char → List Char
  | [] => []
  | character :: rest =>
      let lower :=
        if character = 'Σ' then
          [if beginsWithLetter before && !beginsWithLetter rest then 'ς' else 'σ']
        else if character = 'İ' then ['i', '\u0307']
        else [lowerCharacter character]
      lower ++ lowerAfter (character :: before) rest

def lowercase (text : String) : String :=
  .ofList (lowerAfter [] text.toList)

def asciiLowercase (text : String) : String :=
  .ofList (text.toList.map Char.toLower)

def sameIgnoringCase (left right : String) : Bool :=
  asciiLowercase left == asciiLowercase right

end GroupedReport.Text
