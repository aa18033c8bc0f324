import Playback.Text.Width

/-!
# Tables

Tables drawn with box characters: a header, a double rule, and rows with dashed rules between them.
Every column is as wide as its widest line, and has a blank at either side.

* `Table` — **a header and rows of cells**; a cell may have several lines;
* `Table.render` — the lines of the drawing, without a final line break.
-/

namespace Playback

/-- **A table.** -/
structure Table where
  header : List String
  rows : List (List String)

namespace Table

/-- The lines of a cell. -/
def cellLines (cell : String) : List (List Char) := Text.splitOnChar '\n' cell.toList

/-- The columns that a cell takes. -/
def cellWidth (cell : String) : Nat := ((cellLines cell).map Text.width).foldr max 0

/-- The widths of the columns of some rows. -/
def widths : List (List String) → List Nat
  | [] => []
  | row :: rows =>
    let others := widths rows
    let own := row.map cellWidth
    (List.range (max own.length others.length)).map fun i =>
      -- a column is at least one wide
      max 1 (max (own[i]?.getD 0) (others[i]?.getD 0))

/-- The characters of a rule. -/
structure Rule where
  left : Char
  line : Char
  crossing : Char
  right : Char

/-- The rule above the header. -/
def Rule.top : Rule := ⟨'┌', '─', '┬', '┐'⟩

/-- The rule below the header. -/
def Rule.underHeader : Rule := ⟨'╞', '═', '╪', '╡'⟩

/-- The rule between two rows. -/
def Rule.between : Rule := ⟨'├', '╌', '┼', '┤'⟩

/-- The rule below the last row. -/
def Rule.bottom : Rule := ⟨'└', '─', '┴', '┘'⟩

/-- A rule across columns of some widths. -/
def Rule.draw (r : Rule) (widths : List Nat) : List Char :=
  let pieces := widths.map fun w => List.replicate (w + 2) r.line
  r.left :: ((pieces.intersperse [r.crossing]).flatten ++ [r.right])

/-- A line of a cell, filled up to its column. -/
def padded (width : Nat) (line : List Char) : List Char :=
  ' ' :: (line ++ List.replicate (width - Text.width line) ' ' ++ [' '])

/-- The lines of a row. -/
def rowLines (widths : List Nat) (row : List String) : List (List Char) :=
  let cells := row.map cellLines
  let height := (cells.map List.length).foldr max 1
  (List.range height).map fun i =>
    let pieces := (widths.zip cells).map fun (w, lines) => padded w (lines[i]?.getD [])
    '│' :: ((pieces.intersperse ['┆']).flatten ++ ['│'])

/-- **The drawing of a table.** -/
def render (t : Table) : String :=
  let ws := widths (t.header :: t.rows)
  let body := (t.rows.map (rowLines ws)).intersperse [Rule.between.draw ws]
  let lines := [Rule.top.draw ws] ++ rowLines ws t.header ++ [Rule.underHeader.draw ws] ++
    body.flatten ++ [Rule.bottom.draw ws]
  String.ofList (lines.intersperse ['\n']).flatten

end Table

end Playback
