import SourceAtlas.Decimal.Binary64
import SourceAtlas.Terminal.Layout

/-!
# Tables

A table has a title, a header and rows, in a box whose upper part is heavy. A column is as wide as
its widest cell; if the table is too wide for the terminal, its widest columns give way. Main
function: `Table.draw`.
-/

namespace SourceAtlas.Terminal

/-- A column of a table. -/
structure Column where
  header : String
  alignment : Alignment := .left

/-- A table; its rows have a cell for each column. -/
structure Table where
  title : List Char
  columns : List Column
  rows : List (List (List Char))

/-- What a column gives up: `remaining` columns have to go, shared by some of them, each of which
    has a limit on what it can give. A limit of zero means that a column has no share. -/
def giveUp : (remaining sharers : Nat) → List (Nat × Nat) → List Nat
  | _, _, [] => []
  | remaining, sharers, (limit, width) :: rest =>
    if limit = 0 then width :: giveUp remaining sharers rest
    else
      let share := min limit (roundHalfEven remaining sharers)
      (width - share) :: giveUp (remaining - share) (sharers - 1) rest

/-- The widths after `excess` columns have been given up within limits. -/
def reduceWidths (excess : Nat) (limited : List (Nat × Nat)) : List Nat :=
  giveUp excess (limited.countP (·.1 ≠ 0)) limited

/-- The widest columns give up their lead over the next ones, again and again, until the table fits
    or all columns have the same width. Each round makes the table narrower, so that `fuel` rounds
    are enough for a table of this width. -/
def evenOut (available : Nat) : (fuel : Nat) → List Nat → List Nat
  | 0, widths => widths
  | fuel + 1, widths =>
    let excess := total widths - available
    let widest := widths.foldl max 0
    let next := (widths.filter (· ≠ widest)).foldl max 0
    if excess = 0 || widest = next then widths
    else
      let limit := min excess (widest - next)
      evenOut available fuel
        (reduceWidths excess (widths.map fun w => (if w = widest then limit else 0, w)))

/-- Widths that fit, for widths that do not. -/
def shrinkWidths (available : Nat) (widths : List Nat) : List Nat :=
  let widths := evenOut available (total widths + 1) widths
  reduceWidths (total widths - available) (widths.map fun w => (w, w))

/-- The columns that a cell with its margins takes, if there are some. -/
def cellWidth (available : Nat) (cell : List Char) : Nat :=
  if available < 3 then available else min (naturalWidth cell + 2) available

/-- A cell set in a number of columns, a blank on either side. -/
def cellLines (alignment : Alignment) (width : Nat) (cell : List Char) : List (List Char) :=
  let inner := width - 2
  let s : Setting := { width := inner, alignment, overflow := .ellipsis }
  (s.setText cell).map fun line => fit width (' ' :: fit inner line ++ [' '])

/-- The lines of a box, each with its left end, its line, its crossing and its right end. -/
structure Rule where
  left : Char
  line : Char
  crossing : Char
  right : Char

/-- A rule across columns. -/
def Rule.draw (r : Rule) (widths : List Nat) : List Char :=
  r.left :: Text.joinWith [r.crossing] (widths.map fun w => List.replicate w r.line) ++ [r.right]

/-- Cells side by side, between bars. -/
def rowLine (bar : Char) (cells : List (List Char)) : List Char :=
  bar :: Text.joinWith [bar] cells ++ [bar]

/-- A row of cells of several lines. Shorter cells are filled with blank lines, at the top or at the
    bottom. -/
def rowLines (bar : Char) (atTop : Bool) (widths : List Nat) (cells : List (List (List Char))) :
    List (List Char) :=
  let height := (cells.map (·.length)).foldl max 1
  let filled := (cells.zip widths).map fun (lines, width) =>
    let missing := List.replicate (height - lines.length) (blanks width)
    if atTop then missing ++ lines else lines ++ missing
  (List.range height).map fun i => rowLine bar (filled.map fun lines => lines.getD i [])

namespace Table

/-- The texts of a column, the header first. -/
def columnTexts (t : Table) (i : Nat) (c : Column) : List (List Char) :=
  c.header.toList :: t.rows.map fun row => row.getD i []

/-- The widths of the columns for some room without the bars. -/
def widths (t : Table) (available : Nat) : List Nat :=
  let widest (room i : Nat) (c : Column) : Nat :=
    if room = 0 then 0
    else min room (((t.columnTexts i c).map (cellWidth room)).foldl max 0)
  let natural := t.columns.mapIdx fun i c => max 1 (widest available i c)
  if total natural ≤ available then natural
  else
    let shrunk := shrinkWidths available natural
    t.columns.mapIdx fun i c => widest (shrunk.getD i 0) i c

/-- The lines of a row. -/
def drawRow (t : Table) (bar : Char) (atTop : Bool) (widths : List Nat)
    (cells : List (List Char)) : List (List Char) :=
  rowLines bar atTop widths
    ((t.columns.zip (widths.zip cells)).map fun (c, width, cell) =>
      cellLines c.alignment width cell)

/-- The lines of a table on a terminal. -/
def draw (t : Table) (screen : Nat) : List (List Char) :=
  let bars := t.columns.length + 1
  let widths := t.widths (screen - bars)
  let title : Setting := { width := total widths + bars, alignment := .center }
  title.setText t.title
    ++ [Rule.draw ⟨'┏', '━', '┳', '┓'⟩ widths]
    ++ t.drawRow '┃' true widths (t.columns.map (·.header.toList))
    ++ [Rule.draw ⟨'┡', '━', '╇', '┩'⟩ widths]
    ++ t.rows.flatMap (t.drawRow '│' false widths)
    ++ [Rule.draw ⟨'└', '─', '┴', '┘'⟩ widths]

end Table

end SourceAtlas.Terminal
