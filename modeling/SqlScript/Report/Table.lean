import SqlScript.Decimal.Positional
import SqlScript.Outcome

/-!
# Result tables

A result set is drawn as a box with one line for each row, followed by the number of
rows.  Columns are as wide as their widest cell, up to a limit; what is longer is cut
and marked.  Every line of the box has the same number of characters.
-/

namespace SqlScript.Table

/-- Widest column. -/
def maxWidth : Nat := 50

/-- Cuts a text to a width and marks the cut with `…`. -/
def truncate (width : Nat) (s : List Char) : List Char :=
  if s.length ≤ width then s else s.take (width - 1) ++ ['…']

/-- Fills a text up with blanks on the right. -/
def pad (width : Nat) (s : List Char) : List Char :=
  s ++ List.replicate (width - s.length) ' '

/-- The widest of the headers and cells of each column. -/
def naturalWidths (headers : List (List Char)) (rows : List (List (List Char))) : List Nat :=
  headers.zipIdx.map fun (header, i) =>
    rows.foldl (fun w row => max w ((row[i]?.map List.length).getD 0)) header.length

def widths (headers : List (List Char)) (rows : List (List (List Char))) : List Nat :=
  (naturalWidths headers rows).map (min maxWidth)

/-- A horizontal line of the box. -/
def border (left middle right : Char) (widths : List Nat) : List Char :=
  left :: (List.intercalate [middle] (widths.map fun w => List.replicate (w + 2) '─')
    ++ [right, '\n'])

/-- A cell with its right border. -/
def cell (value : List Char) (width : Nat) : List Char :=
  ' ' :: (pad width (truncate width value) ++ [' ', '│'])

/-- A line of cells. -/
def line (widths : List Nat) (values : List (List Char)) : List Char :=
  '│' :: ((List.zipWith cell values widths).flatten ++ ['\n'])

/-- The line that tells the number of rows. -/
def countLine (n : Nat) : List Char :=
  Decimal.digits n ++ (if n = 1 then " row\n" else " rows\n").toList

/-- The table of a result set; nothing for one without columns. -/
def render (table : QueryRows) : List Char :=
  if table.columns.isEmpty then []
  else
    let headers := table.columns.map String.toList
    let rows := table.rows.map (·.map String.toList)
    let ws := widths headers rows
    border '┌' '┬' '┐' ws ++ line ws headers ++ border '├' '┼' '┤' ws
      ++ (rows.map (line ws)).flatten ++ border '└' '┴' '┘' ws ++ countLine rows.length

theorem truncate_length {width : Nat} (h : 0 < width) (s : List Char) :
    (truncate width s).length ≤ width := by
  unfold truncate
  split
  · assumption
  · simp only [List.length_append, List.length_take, List.length_cons, List.length_nil]
    omega

end SqlScript.Table
