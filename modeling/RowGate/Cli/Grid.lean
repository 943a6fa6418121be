import RowGate.Text.Columns
import RowGate.Text.Cut

/-! # Grids

Cells in rows and columns, with a frame of lines around them. Each column is as wide as its widest
cell on the screen.
-/

namespace RowGate.Cli

/-- The lines of a cell. -/
def cellLines (cell : String) : List String := (Text.pieces '\n' cell.toList).map String.ofList

def cellWidth (cell : String) : Nat := ((cellLines cell).map Text.columns).foldl max 0

structure Grid where
  header : List String
  rows : List (List String)
deriving DecidableEq, Repr

namespace Grid

def widths (g : Grid) : List Nat :=
  g.rows.foldl (fun ws row => List.zipWith max ws (row.map cellWidth)) (g.header.map cellWidth)

/-- A text with blanks behind it up to a width. -/
def pad (width : Nat) (s : String) : String :=
  s ++ String.ofList (List.replicate (width - Text.columns s) ' ')

/-- A line between rows, or at the edge of the grid. -/
def rule (left mid right : String) (widths : List Nat) : String :=
  left ++ mid.intercalate (widths.map fun w => String.ofList (List.replicate (w + 2) '─')) ++ right

/-- The lines of a row: as many as its tallest cell has. -/
def rowLines (widths : List Nat) (row : List String) : List String :=
  let cells := row.map cellLines
  let height := (cells.map List.length).foldl max 0
  (List.range height).map fun i =>
    "│ " ++ " │ ".intercalate (List.zipWith (fun w ls => pad w (ls.getD i "")) widths cells) ++ " │"

/-- The grid as text. Only the header has a rule below it. A grid without columns is empty. -/
def render (g : Grid) : String :=
  if g.header.isEmpty then ""
  else
    let ws := g.widths
    "\n".intercalate
      (rule "╭" "┬" "╮" ws :: rowLines ws g.header ++ rule "├" "┼" "┤" ws ::
        g.rows.flatMap (rowLines ws) ++ [rule "╰" "┴" "╯" ws])

end Grid

end RowGate.Cli
