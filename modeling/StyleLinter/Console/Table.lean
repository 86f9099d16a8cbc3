import StyleLinter.Console.Wrap

/-!
# Tables

A table has a title centred over it, a header in heavy lines and a box of light lines around its
rows. A column is as wide as its widest cell, with a space on both sides. What stands in a cell may
still have to be broken there: a tab takes no cell when the width of a column is measured.
-/

namespace StyleLinter.Console

/-- A column of a table. -/
structure Column where
  /-- The text over the column. -/
  header : Text
  /-- Are the lines of its cells moved to the right? -/
  right : Bool
  /-- Are the lines of its cells broken where they are too long? -/
  wraps : Bool

/-- A table; each row has a text for each column. -/
structure Table where
  /-- The text over the table. -/
  title : Text
  /-- The columns. -/
  columns : List Column
  /-- The rows. -/
  rows : List (List Text)

namespace Table

/-- The cells of the widest line of a text. -/
def widest (t : Text) : Nat := ((Text.lines t).map cells).foldl max 0

/-- The width of the column with the given number: that of its widest cell. -/
def columnWidth (table : Table) (c : Column) (i : Nat) : Nat :=
  table.rows.foldl (fun w row ↦ max w (widest (row.getD i []))) (widest c.header)

/-- The widths of the columns. -/
def widths (table : Table) : List Nat := table.columns.mapIdx fun i c ↦ table.columnWidth c i

/-- A line filled up to `width` cells, on its left or on its right. -/
def fill (right : Bool) (width : Nat) (line : Text) : Text :=
  if right then
    let line := Text.trimEnd line
    List.replicate (width - cells line) ' ' ++ line
  else line ++ List.replicate (width - cells line) ' '

/-- The lines that a text takes in its cell. -/
def cellLines (c : Column) (width : Nat) (t : Text) : List Text :=
  (Text.pieces '\n' t).flatMap fun line ↦
    let broken :=
      if c.wraps then breakLine false width line else [dropExcessBlanks width (expandTabs 0 line)]
    broken.map fun l ↦ fill c.right width (cutOff true width l)

/-- The lines of a row, with `edge` at both ends and between the cells. -/
def rowLines (edge : Text) (columns : List (Column × Nat)) (row : List Text) : List Text :=
  let cells := (columns.zip row).map fun ((c, w), t) ↦ (w, cellLines c w t)
  let height := cells.foldl (fun h (_, ls) ↦ max h ls.length) 1
  (List.range height).map fun i ↦
    edge ++ cells.flatMap fun (w, ls) ↦
      [' '] ++ ls.getD i (List.replicate w ' ') ++ [' '] ++ edge

/-- A line of the box: a stroke for each column, and what stands between them. -/
def stroke (left line between right : Char) (widths : List Nat) : Text :=
  [left] ++ Text.joinWith [between] (widths.map fun w ↦ List.replicate (w + 2) line) ++ [right]

/-- The lines of a table. -/
def lines (table : Table) : List Text :=
  let widths := table.widths
  let columns := table.columns.zip widths
  let total := widths.foldl (fun n w ↦ n + w + 3) 1
  let title := List.replicate ((total - cells table.title) / 2) ' ' ++ table.title
  [title, stroke '┏' '━' '┳' '┓' widths]
    ++ rowLines "┃" columns (table.columns.map (·.header))
    ++ [stroke '┡' '━' '╇' '┩' widths]
    ++ table.rows.flatMap (rowLines "│" columns)
    ++ [stroke '└' '─' '┴' '┘' widths]

end Table

end StyleLinter.Console
