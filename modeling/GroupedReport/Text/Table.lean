import GroupedReport.Text.DisplayWidth

/-!
# Boxed tables

A table of texts, drawn with lines around every cell. Each column is as wide as its widest cell,
each row as high as its highest one, and texts begin at the left and at the top of their cells.
-/

namespace GroupedReport.Text

def lines : List Char → List (List Char)
  | [] => [[]]
  | character :: rest =>
      if character = '\n' then [] :: lines rest
      else match lines rest with
        | first :: more => (character :: first) :: more
        | [] => [[character]]

example : lines ['a', '\n', 'b', '\n'] = [['a'], ['b'], []] := rfl

theorem lines_ne_nil (text : List Char) : lines text ≠ [] := by
  unfold lines
  grind

def joined (between : List Char) (texts : List (List Char)) : List Char :=
  (texts.intersperse between).flatten

theorem joined_lines (text : List Char) : joined ['\n'] (lines text) = text := by
  induction text with
  | nil => rfl
  | cons character rest induction =>
      cases found : lines rest with
      | nil => exact absurd found (lines_ne_nil rest)
      | cons first more =>
          rw [found] at induction
          by_cases isEnd : character = '\n' <;> cases more <;>
            simp_all [lines, joined]

namespace Table

abbrev Cell := List (List Char)

def cellWidth (cell : Cell) : Nat :=
  (cell.map displayWidth).foldr max 0

def rowHeight (row : List Cell) : Nat :=
  (row.map List.length).foldr max 0

def columnWidths : List (List Cell) → List Nat
  | [] => []
  | [row] => row.map cellWidth
  | row :: rest => List.zipWith max (row.map cellWidth) (columnWidths rest)

def padded (width : Nat) (text : List Char) : List Char :=
  ' ' :: text ++ List.replicate (width - displayWidth text) ' ' ++ [' ']

def rowLine (widths : List Nat) (row : List Cell) (index : Nat) : List Char :=
  let parts := List.zipWith (fun width cell => padded width (cell.getD index [])) widths row
  '│' :: joined ['│'] parts ++ ['│']

def rowLines (widths : List Nat) (row : List Cell) : List (List Char) :=
  (List.range (rowHeight row)).map (rowLine widths row)

def rule (left crossing right : Char) (widths : List Nat) : List Char :=
  let parts := widths.map fun width => List.replicate (width + 2) '─'
  left :: joined [crossing] parts ++ [right]

def drawn (rows : List (List Cell)) : List (List Char) :=
  let widths := columnWidths rows
  let between := [rule '├' '┼' '┤' widths]
  [rule '┌' '┬' '┐' widths] ++
    ((rows.map (rowLines widths)).intersperse between).flatten ++
    [rule '└' '┴' '┘' widths]

/-- The table whose columns have the given names. A table without columns has no lines. -/
def draw (names : List String) (rows : List (List String)) : String :=
  if names.isEmpty then ""
  else
    let cells := (names :: rows).map fun row => row.map fun text => lines text.toList
    .ofList (joined ['\n'] (drawn cells))

example : draw ["a", "b"] [["1", ""]] =
    "┌───┬───┐\n│ a │ b │\n├───┼───┤\n│ 1 │   │\n└───┴───┘" := by cbv

end Table

end GroupedReport.Text
