import GroupedReport.Text.DisplayWidthTables

/-!
# Display width

The room that a text takes on a terminal, in columns of one letter.
-/

namespace GroupedReport.Text

/-- The width of a character by itself. Control characters have none. -/
def characterWidth (character : Char) : Nat :=
  let point := character.toNat
  if point < 32 then 0
  else if point < 127 then 1
  else if point < 160 then 0
  else if inRanges zeroWidthRanges point then 0
  else if inRanges wideRanges point then 2
  else 1

/-- Whether a character is narrow but shown as an emoji when U+FE0F follows. -/
def isNarrowEmoji (character : Char) : Bool :=
  inRanges emojiRanges character.toNat

def displayWidth : List Char → Nat
  | [] => 0
  | character :: '\ufe0f' :: rest =>
      (if isNarrowEmoji character then 2 else characterWidth character) + displayWidth rest
  | character :: rest => characterWidth character + displayWidth rest

example : displayWidth ['é', '日', 'e', '\u0301', '\t'] = 4 := by decide +kernel
example : displayWidth ['❤'] = 1 ∧ displayWidth ['❤', '\ufe0f'] = 2 := by decide +kernel

theorem characterWidth_le_two (character : Char) : characterWidth character ≤ 2 := by
  unfold characterWidth
  grind

theorem characterWidth_ascii {character : Char}
    (printable : 32 ≤ character.toNat ∧ character.toNat < 127) :
    characterWidth character = 1 := by
  unfold characterWidth
  grind

end GroupedReport.Text
