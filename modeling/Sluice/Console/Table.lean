import Sluice.Text.Ascii
import Sluice.Text.Width

/-!
# Tables of text

A header and rows, drawn with dashes and bars. A cell of several lines makes its row as high; every
column is as wide as its widest line. All lines of a drawn table have the same width.
-/

namespace Sluice.Console

open Text

/-- A table; every row has as many cells as the header. -/
structure Table where
  header : List String
  rows : List (List String) := []
deriving DecidableEq, Inhabited

namespace Table

def cellLines (cell : String) : List String := (splitChar '\n' cell.toList).map String.ofList

/-- The width of a cell, at least one. -/
def cellWidth (cell : String) : Nat := ((cellLines cell).map width).foldl max 1

def widths (t : Table) : List Nat :=
  t.rows.foldl (fun ws row => ws.zipWith max (row.map cellWidth)) (t.header.map cellWidth)

def repeated (n : Nat) (c : Char) : String := String.ofList (List.replicate n c)

/-- A line without text: a stroke for each column and a blank's width on either side. -/
def ruler (first stroke cross last : String) (ws : List Nat) : String :=
  let strokes := ws.map fun w => "".intercalate (List.replicate (w + 2) stroke)
  first ++ cross.intercalate strokes ++ last

/-- A line of text with blanks around it. -/
def padRight (w : Nat) (line : String) : String :=
  " " ++ line ++ repeated (w - width line) ' ' ++ " "

def rowLines (ws : List Nat) (row : List String) : List String :=
  let cells := row.map cellLines
  let height := (cells.map List.length).foldl max 0
  (List.range height).map fun i =>
    let parts := (ws.zip cells).map fun (w, lines) => padRight w ((lines[i]?).getD "")
    "|" ++ "|".intercalate parts ++ "|"

def bodyLines (ws : List Nat) : List (List String) → List String
  | [] => []
  | [row] => rowLines ws row
  | row :: rest => rowLines ws row ++ ruler "|" "-" "+" "|" ws :: bodyLines ws rest

/-- The drawn table, without a line break at its end. -/
def render (t : Table) : String :=
  let ws := t.widths
  let edge := ruler "+" "-" "+" "+" ws
  "\n".intercalate
    ([edge] ++ rowLines ws t.header ++ [ruler "+" "=" "=" "+" ws] ++ bodyLines ws t.rows ++ [edge])

end Table

end Sluice.Console
