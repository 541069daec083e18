import KanjiSearch.Text.Width

/-!
# Tables on a terminal

Tables with a frame and a double line below the header. Columns are as wide as their contents, and a cell with line
breaks takes several lines.
-/

namespace KanjiSearch.Terminal

/-- The lines of a cell. -/
def cellLines (cell : String) : List (List Char) :=
  cell.toList.splitOn '\n'

/-- The width of a cell: that of its widest line. -/
def cellWidth (cell : String) : Nat :=
  ((cellLines cell).map Text.width).foldl max 0

/-- The widths of the columns of a table in which every row has `count` cells. -/
def columnWidths (count : Nat) (rows : List (List String)) : List Nat :=
  rows.foldl (fun widths row => List.zipWith max widths (row.map cellWidth)) (List.replicate count 0)

/-- A line of a cell, filled up to the width of its column, with a space at each end. -/
def paddedLine (width : Nat) (line : List Char) : List Char :=
  ' ' :: (line ++ List.replicate (width - Text.width line) ' ' ++ [' '])

/-- A line of the frame. -/
def rule (left fill middle right : Char) (widths : List Nat) : List Char :=
  left :: (List.intercalate [middle] (widths.map fun width => List.replicate (width + 2) fill) ++ [right])

/-- The line `index` of a row. -/
def rowLine (widths : List Nat) (cells : List (List (List Char))) (index : Nat) : List Char :=
  '│' ::
    (List.intercalate ['┆'] (List.zipWith (fun width lines => paddedLine width (lines.getD index [])) widths cells) ++
      ['│'])

/-- The lines of a row: as many as its highest cell has. -/
def rowLines (widths : List Nat) (row : List String) : List (List Char) :=
  let cells := row.map cellLines
  let height := (cells.map List.length).foldl max 0
  (List.range height).map (rowLine widths cells)

/-- The lines of a table. -/
def tableLines (header : List String) (rows : List (List String)) : List (List Char) :=
  let widths := columnWidths header.length (header :: rows)
  [rule '┌' '─' '┬' '┐' widths] ++ rowLines widths header ++ [rule '╞' '═' '╪' '╡' widths] ++
    rows.flatMap (rowLines widths) ++ [rule '└' '─' '┴' '┘' widths]

/-- A table with a header. -/
def table (header : List String) (rows : List (List String)) : String :=
  String.ofList (List.intercalate ['\n'] (tableLines header rows))

end KanjiSearch.Terminal
