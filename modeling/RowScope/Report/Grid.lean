/-
Tables drawn with characters.

* `Grid.render` — a table with a frame, a header above a double line, and a line
  between two rows.

Design notes: a column is as wide as its widest line, with a blank on either side, and
the lines of a cell stand below each other.
-/
import RowScope.Report.Width

namespace RowScope

/-- A table: the names of the columns and the rows below them. -/
structure Grid where
  header : List String
  rows : List (List String)

namespace Grid

/-- The lines of a cell. -/
def cellLines (cell : String) : List String :=
  cell.splitOn "\n"

/-- The columns that a cell takes. -/
def cellWidth (cell : String) : Nat :=
  ((cellLines cell).map displayWidth).foldl max 1

/-- The widths of the columns. -/
def widths (g : Grid) : List Nat :=
  g.rows.foldl (fun ws row => ws.zipWith max (row.map cellWidth)) (g.header.map cellWidth)

/-- A text repeated. -/
def repeated (c : Char) (n : Nat) : String :=
  String.ofList (List.replicate n c)

/-- A line of a frame: its ends, what runs along it and what stands between columns. -/
def rule (ws : List Nat) (side : String) (along : Char) (between : String) : String :=
  side ++ between.intercalate (ws.map fun w => repeated along (w + 2)) ++ side

/-- A line of a cell, filled up to a width. -/
def padded (w : Nat) (line : String) : String :=
  " " ++ line ++ repeated ' ' (w - displayWidth line) ++ " "

/-- The lines of a row. -/
def rowLines (ws : List Nat) (row : List String) : List String :=
  let cells := row.map cellLines
  let height := (cells.map List.length).foldl max 1
  (List.range height).map fun i =>
    "|" ++ "|".intercalate ((ws.zip cells).map fun (w, lines) => padded w (lines[i]?.getD ""))
      ++ "|"

/-- The table as lines. -/
def lines (g : Grid) : List String :=
  let ws := g.widths
  let frame := rule ws "+" '-' "+"
  let body := g.rows.map (rowLines ws)
  frame :: rowLines ws g.header ++ [rule ws "+" '=' "="]
    ++ [rule ws "|" '-' "+"].intercalate body ++ [frame]

/-- The table as text. -/
def render (g : Grid) : String :=
  "\n".intercalate g.lines

end Grid

end RowScope
