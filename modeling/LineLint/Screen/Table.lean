import LineLint.Screen.Lines

/-! # Tables

A table has a title, a header and rows of cells, and is as wide as the screen. A column is as wide
as its widest cell. If that is too much for the screen, the widest column gives up what is too
much; what is left of the screen is shared among the columns by their widths. A text that its cell
has no room for goes on in further lines of the cell. -/

namespace LineLint.Screen

open Markup (MarkupError)

/-- A table whose tags have been taken out. -/
structure Table where
  header : List StyledText
  rows : List (List StyledText)
  deriving DecidableEq, Repr

namespace Table

/-- The columns that the blanks on both sides of a cell take. -/
def padding : Nat := 2

/-- The header and the rows. -/
def allRows (t : Table) : List (List StyledText) := t.header :: t.rows

/-- The columns of the screen that are left to the cells by the frame around them. -/
def room (t : Table) : Nat := screenWidth - (t.header.length + 1)

/-- A character at which a line ends when the width of a text is measured. -/
def endsLine (c : Char) : Bool :=
  let n := c.toNat
  n == 0xA || n == 0x1C || n == 0x1D || n == 0x1E || n == 0x85 || n == 0x2028 || n == 0x2029

/-- The width of the widest line of a text. -/
def textWidth (text : List Char) : Nat :=
  let lines := Text.cut '\n' (text.map fun c => if endsLine c then '\n' else c)
  (lines.map Text.width).foldl max 0

/-- The width that a cell would like to have. -/
def cellWidth (t : Table) (cell : StyledText) : Nat :=
  min t.room (textWidth cell.text + padding)

/-- The width that each column would like to have. -/
def wantedWidths (t : Table) : List Nat :=
  (List.range t.header.length).map fun i =>
    (t.allRows.map fun row => (row[i]?.map t.cellWidth).getD 0).foldl max 1

/-- Makes the first of the widest columns narrower. -/
def narrow (excess : Nat) (widths : List Nat) : List Nat :=
  let widest := widths.foldl max 0
  match widths.span (· != widest) with
  | (before, w :: after) => before ++ (w - excess) :: after
  | _ => widths

/-- Shares columns of the screen out in proportion to some widths, of which `total` is the sum.
Each share is rounded up. -/
def share (spare total : Nat) : List Nat → List Nat
  | [] => []
  | w :: rest =>
    let part := (w * spare + (total - 1)) / total
    part :: share (spare - part) (total - w) rest

/-- The widths of the columns. -/
def widths (t : Table) : List Nat :=
  let wanted := t.wantedWidths
  let total := wanted.foldl (· + ·) 0
  if t.room < total then narrow (total - t.room) wanted
  else (wanted.zip (share (t.room - total) total wanted)).map fun (w, spare) => w + spare

/-- The lines of a cell in a column. -/
def cellLines (cell : StyledText) (width : Nat) : Except MarkupError (List (List Char)) :=
  let columns := width - padding
  showLines columns (cell.wrap columns .ellipsis)

/-- The lines of a row, where the lines of its cells stand next to each other. -/
def rowLines (cells : List (List (List Char))) : List (List Char) :=
  (List.range ((cells.map List.length).foldl max 0)).map fun i =>
    Text.glue ' ' (cells.map (·.getD i []))

/-- The lines of all rows. -/
def lines (t : Table) : Except MarkupError (List (List Char)) := do
  let widths := t.widths
  let rows ← t.allRows.mapM fun row => (row.zip widths).mapM fun (cell, width) =>
    cellLines cell width
  return rows.flatMap rowLines

end Table

/-- Takes the tags out of the cells of a row. -/
def readRow (cells : List String) : Except MarkupError (List StyledText) :=
  cells.mapM fun cell => Markup.render cell.toList

/-- The lines of a table. The tags are taken out of all cells before any of them is shown. -/
def table (title : String) (header : List String) (rows : List (List String)) :
    Except MarkupError (List String) := do
  let table : Table := ⟨← readRow header, ← rows.mapM readRow⟩
  return (← print title) ++ plainLines (← table.lines)

end LineLint.Screen
