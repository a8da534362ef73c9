import Phrasebook.Text.Width

/-! # Tables

A table is drawn with lines around it and below its header. Every cell has a space on either side,
the cells of a row stand a space apart, and a column is as wide as its widest line. A cell whose
text has line breaks takes several lines, and so does its row.
-/

namespace Phrasebook.Text.Table

/-- The lines of a cell, of which there is at least one. -/
def cellLines : List Char → List (List Char)
  | [] => [[]]
  | c :: cs =>
    if c = '\n' then [] :: cellLines cs
    else
      match cellLines cs with
      | [] => [[c]]
      | line :: lines => (c :: line) :: lines

/-- A row as the lines of its cells. -/
abbrev Row := List (List String)

/-- The lines of the cells of a row. -/
def row (cells : List String) : Row :=
  cells.map fun cell => (cellLines cell.toList).map String.ofList

/-- The width of the widest line of a cell. -/
def cellWidth (lines : List String) : Nat := (lines.map width).foldl max 0

/-- The widths of the columns. -/
def columnWidths (header : Row) (rows : List Row) : List Nat :=
  rows.foldl (fun widths r => widths.zipWith max (r.map cellWidth)) (header.map cellWidth)

/-- A line of a cell between its spaces, filled up to the width of its column. -/
def pad (columns : Nat) (line : String) : String :=
  " " ++ line ++ String.ofList (List.replicate (columns - width line) ' ') ++ " "

/-- The lines of a row. -/
def drawRow (widths : List Nat) (r : Row) : List String :=
  let height := (r.map List.length).foldl max 1
  (List.range height).map fun i =>
    "│" ++ " ".intercalate (widths.zipWith (fun w lines => pad w (lines.getD i "")) r) ++ "│"

/-- A line across the table. -/
def rule (left fill right : Char) (widths : List Nat) : String :=
  let inner := widths.foldl (fun total width => total + width + 2) 0 + (widths.length - 1)
  String.ofList (left :: (List.replicate inner fill ++ [right]))

/-- The lines of a table. -/
def draw (header : List String) (rows : List (List String)) : List String :=
  let header := row header
  let rows := rows.map row
  let widths := columnWidths header rows
  [rule '┌' '─' '┐' widths] ++ drawRow widths header ++ [rule '╞' '═' '╡' widths] ++
    rows.flatMap (drawRow widths) ++ [rule '└' '─' '┘' widths]

end Phrasebook.Text.Table
