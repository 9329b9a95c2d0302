import SourceAtlas.Terminal.Layout

/-!
# Panels

A panel is a text in a box with round corners and a title in its upper edge. It is as wide as its
text or as the terminal. Main function: `Panel.draw`.
-/

namespace SourceAtlas.Terminal

/-- A text in a box. -/
structure Panel where
  title : List Char
  body : List Char
  /-- The panel is as wide as the terminal. -/
  isWide : Bool := false

namespace Panel

/-- The columns inside the box. -/
def innerWidth (p : Panel) (screen : Nat) : Nat :=
  let most := screen - 2
  if p.isWide then most
  else min most (max (naturalWidth p.body + 2) (columns p.title + 4))

/-- The upper edge with the title in its middle. -/
def upperEdge (p : Panel) (inner : Nat) : List Char :=
  let room := inner - 2
  let title : Setting := { width := room }
  let title := title.truncate (' ' :: p.title ++ [' '])
  let excess := room - columns title
  let line (n : Nat) : List Char := List.replicate n '─'
  ['╭', '─'] ++ line (excess / 2) ++ title ++ line (excess - excess / 2) ++ ['─', '╮']

/-- The lines of a panel on a terminal. -/
def draw (p : Panel) (screen : Nat) : List (List Char) :=
  let inner := p.innerWidth screen
  let body : Setting := { width := inner - 2 }
  [p.upperEdge inner]
    ++ (body.setText p.body).map (fun line => ['│', ' '] ++ fit (inner - 2) line ++ [' ', '│'])
    ++ ['╰' :: List.replicate inner '─' ++ ['╯']]

end Panel

end SourceAtlas.Terminal
