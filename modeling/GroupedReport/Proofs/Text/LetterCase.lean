import GroupedReport.Text.LetterCase

/-!
# Letter case of names

The lower-case form of a text does not change with the case of its ASCII letters: they are cased
letters in either case, so that even the letters around them cannot tell. In a text of ASCII
characters there is nothing else that has case.
-/

namespace GroupedReport.Text

/-! ## ASCII letters -/

theorem toLower_letter :
    ∀ offset < 26, (Char.ofNat (65 + offset)).toLower = Char.ofNat (97 + offset) := by
  decide

/-- What reads the 26 letters of ASCII in either case alike does so with all characters. -/
theorem read_toLower (read : Char → α)
    (letters : ∀ offset < 26, read (Char.ofNat (97 + offset)) = read (Char.ofNat (65 + offset)))
    (character : Char) : read character.toLower = read character := by
  by_cases upper : 65 ≤ character.toNat ∧ character.toNat ≤ 90
  · have small : character.toNat - 65 < 26 := by omega
    have isLetter : Char.ofNat (65 + (character.toNat - 65)) = character := by
      rw [Nat.add_sub_cancel' upper.1, Char.ofNat_toNat]
    rw [← isLetter, toLower_letter _ small, letters _ small]
  · have notUpper : ¬(character.val ≥ 'A'.val ∧ character.val ≤ 'Z'.val) := upper
    have unchanged : character.toLower = character := dif_neg notUpper
    rw [unchanged]

theorem lowerCharacter_toLower (character : Char) :
    lowerCharacter character.toLower = lowerCharacter character :=
  read_toLower lowerCharacter (by decide) character

theorem isCased_toLower (character : Char) :
    inRanges casedRanges character.toLower.toNat = inRanges casedRanges character.toNat :=
  read_toLower (fun character => inRanges casedRanges character.toNat) (by decide) character

theorem isIgnorable_letter {point : Nat} (above : 65 ≤ point) (below : point ≤ 122)
    (letter : point ≤ 90 ∨ 97 ≤ point) : inRanges caseIgnorableRanges point = false := by
  have apart : ∀ range ∈ caseIgnorableRanges,
      range.2 < 65 ∨ 122 < range.1 ∨ 90 < range.1 ∧ range.2 < 97 := by decide +kernel
  rw [inRanges, List.any_eq_false]
  intro range member
  have outside := apart range member
  simp only [Bool.and_eq_true, decide_eq_true_eq]
  omega

theorem isIgnorable_toLower (character : Char) :
    inRanges caseIgnorableRanges character.toLower.toNat =
      inRanges caseIgnorableRanges character.toNat := by
  refine read_toLower (fun character => inRanges caseIgnorableRanges character.toNat) ?_
    character
  intro offset small
  have code : ∀ offset < 26, (Char.ofNat (97 + offset)).toNat = 97 + offset ∧
      (Char.ofNat (65 + offset)).toNat = 65 + offset := by decide
  rw [(code offset small).1, (code offset small).2,
    isIgnorable_letter (by omega) (by omega) (by omega),
    isIgnorable_letter (by omega) (by omega) (by omega)]

theorem isSigma_toLower (character : Char) :
    (character.toLower = 'Σ') = (character = 'Σ') :=
  read_toLower (fun character => character = 'Σ') (by decide) character

theorem isDotted_toLower (character : Char) :
    (character.toLower = 'İ') = (character = 'İ') :=
  read_toLower (fun character => character = 'İ') (by decide) character

/-! ## Lower-case forms -/

theorem beginsWithLetter_map_toLower (text : List Char) :
    beginsWithLetter (text.map Char.toLower) = beginsWithLetter text := by
  induction text with
  | nil => rfl
  | cons first rest induction =>
      rw [beginsWithLetter, beginsWithLetter, List.map_cons, List.dropWhile_cons,
        List.dropWhile_cons, isIgnorable_toLower]
      cases inRanges caseIgnorableRanges first.toNat with
      | true => exact induction
      | false => exact isCased_toLower first

theorem lowerAfter_map_toLower (before text : List Char) :
    lowerAfter (before.map Char.toLower) (text.map Char.toLower) = lowerAfter before text := by
  induction text generalizing before with
  | nil => rfl
  | cons first rest induction =>
      have following := induction (first :: before)
      rw [List.map_cons] at following ⊢
      rw [lowerAfter, lowerAfter, following, beginsWithLetter_map_toLower,
        beginsWithLetter_map_toLower, lowerCharacter_toLower]
      simp only [isSigma_toLower, isDotted_toLower]

theorem lowercase_asciiLowercase (text : String) :
    lowercase (asciiLowercase text) = lowercase text := by
  rw [lowercase, asciiLowercase, String.toList_ofList]
  exact congrArg String.ofList (lowerAfter_map_toLower [] text.toList)

theorem lowercase_eq_of_sameIgnoringCase {left right : String}
    (same : sameIgnoringCase left right = true) : lowercase left = lowercase right := by
  rw [← lowercase_asciiLowercase left, beq_iff_eq.mp same, lowercase_asciiLowercase]

/-! ## Texts of ASCII characters -/

def isAscii (text : String) : Bool :=
  text.toList.all fun character => character.toNat < 128

theorem lowerAfter_of_ascii {text : List Char} (ascii : ∀ character ∈ text, character.toNat < 128)
    (before : List Char) : lowerAfter before text = text.map Char.toLower := by
  induction text generalizing before with
  | nil => rfl
  | cons first rest induction =>
      rw [List.forall_mem_cons] at ascii
      have notSigma : first ≠ 'Σ' := by
        rintro rfl
        exact absurd ascii.1 (by decide)
      have notDotted : first ≠ 'İ' := by
        rintro rfl
        exact absurd ascii.1 (by decide)
      rw [lowerAfter, induction ascii.2, if_neg notSigma, if_neg notDotted, lowerCharacter,
        if_pos ascii.1]
      rfl

theorem lowercase_of_isAscii {text : String} (ascii : isAscii text = true) :
    lowercase text = asciiLowercase text := by
  have each : ∀ character ∈ text.toList, character.toNat < 128 := by
    simpa [isAscii] using ascii
  rw [lowercase, lowerAfter_of_ascii each, asciiLowercase]

theorem sameIgnoringCase_of_isAscii {left right : String} (leftAscii : isAscii left = true)
    (rightAscii : isAscii right = true) (same : lowercase left = lowercase right) :
    sameIgnoringCase left right = true := by
  rw [lowercase_of_isAscii leftAscii, lowercase_of_isAscii rightAscii] at same
  exact beq_iff_eq.mpr same

end GroupedReport.Text
