/-
This file describes character sets in which two bytes name a character: the first one a row of a
grid, and the second a cell in that row.
-/

namespace BallotWatch.Text

/-- A grid of characters: the byte of the first row, the byte of the first cell in every row, and
the rows. A space marks a cell without a character, and the cells after the last character of a row
are left out. -/
structure Grid where
  firstRow : Nat
  firstCell : Nat
  rows : List String

/-- The character in a cell. -/
def Grid.char? (grid : Grid) (row cell : Nat) : Option Char :=
  if row < grid.firstRow ∨ cell < grid.firstCell then none
  else
    match grid.rows[row - grid.firstRow]? with
    | none => none
    | some characters =>
      (characters.toList[cell - grid.firstCell]?).filter (· != ' ')

end BallotWatch.Text
