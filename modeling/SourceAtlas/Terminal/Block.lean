import SourceAtlas.Terminal.Markup
import SourceAtlas.Terminal.Panel
import SourceAtlas.Terminal.Table

/-!
# What is shown to the user

A block is a piece of output: a text with markup, a table, a panel, or a text that is printed as it
is. Main function: `Block.render`, the text of a block on a terminal of some width.
-/

namespace SourceAtlas.Terminal

/-- A piece of output. All texts but those of `verbatim` may hold markup. -/
inductive Block where
  | text (markup : String)
  | table (title : String) (columns : List Column) (rows : List (List String))
  | panel (title body : String) (isWide : Bool)
  | verbatim (text : String)

/-- Lines, each with a line feed at its end. -/
def linesText (lines : List (List Char)) : String :=
  .ofList (lines.flatMap (· ++ ['\n']))

/-- The cells of a row without their markup. -/
def readCells (row : List String) : Except Markup.Fault (List (List Char)) :=
  row.mapM Markup.read

/-- The text of a block on a terminal. -/
def Block.render (screen : Nat) (b : Block) : Except Markup.Fault String :=
  match b with
  | .text markup =>
    (Markup.read markup).map fun cs =>
      let s : Setting := { width := screen }
      linesText (s.setText cs)
  | .table title columns rows => do
    let title ← Markup.read title
    let rows ← rows.mapM readCells
    let t : Table := { title, columns, rows }
    return linesText (t.draw screen)
  | .panel title body isWide => do
    let title ← Markup.read title
    let body ← Markup.read body
    let p : Panel := { title, body, isWide }
    return linesText (p.draw screen)
  | .verbatim s => .ok (s ++ "\n")

end SourceAtlas.Terminal
