/-
Tables drawn with lines.

* `Grid`: a heading and rows of cells;
* `Grid.render`: the drawing. Columns are as wide as their widest line, with a blank at either side;
  cells may have several lines; rows are set apart by dotted lines.
-/
import LeaseQueue.Text.Width

namespace LeaseQueue

/-- A table. -/
structure Grid where
  heading : List String
  rows : List (List String)
deriving DecidableEq, Repr

namespace Grid

/-- The lines of a cell. -/
def linesOf (cell : String) : List String := cell.splitOn "\n"

/-- The columns that a cell takes. -/
def cellWidth (cell : String) : Nat := ((linesOf cell).map Text.width).foldl max 0

/-- The widths of the columns. -/
def widths (g : Grid) : List Nat :=
  (g.heading :: g.rows).foldl
    (fun acc row => List.zipWith max acc (row.map cellWidth)) (g.heading.map fun _ => 0)

/-- A line across the table from its four parts. -/
def rule (left fill cross right : Char) (ws : List Nat) : String :=
  left.toString
    ++ cross.toString.intercalate (ws.map fun w => String.ofList (List.replicate (w + 2) fill))
    ++ right.toString

/-- A line of a cell, filled up to the width of its column. -/
def padLine (w : Nat) (line : String) : String :=
  " " ++ line ++ String.ofList (List.replicate (w - Text.width line) ' ') ++ " "

/-- One line across the table from the first lines of cells, which may have none left. -/
def firstLine (ws : List Nat) (cells : List (List String)) : String :=
  "│" ++ "┆".intercalate (List.zipWith (fun w c => padLine w (c.headD "")) ws cells) ++ "│"

/-- The first lines across the table from cells, so many of them. -/
def linesAcross (ws : List Nat) : Nat → List (List String) → List String
  | 0, _ => []
  | n + 1, cells => firstLine ws cells :: linesAcross ws n (cells.map (·.drop 1))

/-- The lines of a row. -/
def rowLines (ws : List Nat) (row : List String) : List String :=
  let cells := row.map linesOf
  linesAcross ws ((cells.map List.length).foldl max 1) cells

/-- The drawing, without a line break at its end. -/
def render (g : Grid) : String :=
  let ws := g.widths
  let dotted := rule '├' '╌' '┼' '┤' ws
  let body := List.flatten ((g.rows.map (rowLines ws)).intersperse [dotted])
  "\n".intercalate
    ([rule '┌' '─' '┬' '┐' ws] ++ rowLines ws g.heading ++ [rule '╞' '═' '╪' '╡' ws] ++ body
      ++ [rule '└' '─' '┴' '┘' ws])

end Grid

end LeaseQueue
