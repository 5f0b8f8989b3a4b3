import CloudSpace.Text.Width

/-!
# Tables

Rows of cells in a grid of `+`, `-` and `|`, with a border after every row. A column is as wide
as its widest line, and a row as high as its highest cell; lines stand at the left.
-/
namespace CloudSpace.Report

/-- The lines of a cell. -/
def cellLines (cell : String) : List String := cell.splitOn "\n"

def cellWidth (cell : String) : Nat :=
  ((cellLines cell).map Text.displayWidth).foldl max 0

/-- The widths of the columns of some rows. -/
def columnWidths (columns : Nat) (rows : List (List String)) : List Nat :=
  rows.foldl (fun widths row => List.zipWith max widths (row.map cellWidth))
    (List.replicate columns 0)

def repeated (count : Nat) (c : Char) : String := String.ofList (List.replicate count c)

def border (widths : List Nat) : String :=
  "+" ++ String.join (widths.map fun width => repeated (width + 2) '-' ++ "+")

/-- A line in a column. -/
def padded (width : Nat) (line : String) : String :=
  " " ++ line ++ repeated (width - Text.displayWidth line) ' ' ++ " |"

/-- The lines of a row. -/
def rowLines (widths : List Nat) (row : List String) : List String :=
  let height := (row.map fun cell => (cellLines cell).length).foldl max 0
  (List.range height).map fun index =>
    "|" ++ String.join (List.zipWith
      (fun width cell => padded width (((cellLines cell)[index]?).getD "")) widths row)

/-- The table of a row of titles and the rows below it. -/
def table (titles : List String) (rows : List (List String)) : String :=
  let rows := titles :: rows
  let widths := columnWidths titles.length rows
  "\n".intercalate
    (border widths :: rows.flatMap fun row => rowLines widths row ++ [border widths])

end CloudSpace.Report
