import SourceAtlas.Terminal.Cluster
import SourceAtlas.Text.Blank
import SourceAtlas.Text.Cut

/-!
# Breaking lines

A line that is too long for its place is broken between words. A word that is too long for a line
of its own is broken anywhere if it may be folded, and is left whole otherwise. Main function:
`wrap`; breaking loses nothing (`flatten_wrap`).
-/

namespace SourceAtlas.Terminal

open Text

/-- The parts of a line between its tabs, with blanks for the tabs. The first part starts at a
    column. Tab stops are eight columns apart. -/
def expandTabsFrom : (column : Nat) → List (List Char) → List Char
  | _, [] => []
  | _, [part] => part
  | column, part :: rest =>
    let part := part ++ [' ']
    let column := column + columns part
    let missing := (8 - column % 8) % 8
    part ++ blanks missing ++ expandTabsFrom (column + missing) rest

/-- Tabs replaced by blanks. -/
def expandTabs (cs : List Char) : List Char := expandTabsFrom 0 (splitAll (· = '\t') cs)

/-- The pieces of a line, which is cut after blanks that do not go on. -/
def pieces : List Char → List (List Char)
  | [] => []
  | c :: rest =>
    match pieces rest with
    | [] => [[c]]
    | piece :: more =>
      if isBlank c && !piece.head?.any isBlank then [c] :: piece :: more
      else (c :: piece) :: more

/-- The words of a line, each with the blanks after it, and the first one with those before it. A
    blank line has no words. -/
def words (cs : List Char) : List (List Char) :=
  match pieces cs with
  | [] => []
  | first :: rest =>
    if first.all isBlank then
      match rest with
      | [] => []
      | second :: rest => (first ++ second) :: rest
    else first :: rest

/-- Where to break for the lines of a chopped word that starts at a position. The very start of a
    line is no place to break. -/
def chopBreaks (start : Nat) : List (List Char) → List Nat
  | [] => []
  | line :: rest =>
    let more := chopBreaks (start + line.length) rest
    if start = 0 then more else start :: more

/-- Where to break a line. The words start at a position, and `used` columns are taken before
    them. -/
def breaksFrom (fold : Bool) (width : Nat) : (start used : Nat) → List (List Char) → List Nat
  | _, _, [] => []
  | start, used, word :: rest =>
    let next := start + word.length
    let size := columns (dropEnd isBlank word)
    let here : List Nat := if start = 0 then [] else [start]
    if used + size ≤ width then breaksFrom fold width next (used + columns word) rest
    else if size ≤ width then here ++ breaksFrom fold width next (columns word) rest
    else if fold then
      let lines := chop width word
      chopBreaks start lines
        ++ breaksFrom fold width next (columns (lines.getLast?.getD [])) rest
    else here ++ breaksFrom fold width next (columns word) rest

/-- A text cut at ascending positions; it starts at a position itself. -/
def cutAtBreaks (start : Nat) : List Nat → List Char → List (List Char)
  | [], cs => [cs]
  | p :: more, cs => cs.take (p - start) :: cutAtBreaks p more (cs.drop (p - start))

/-- A line broken for a number of columns. -/
def wrap (fold : Bool) (width : Nat) (cs : List Char) : List (List Char) :=
  cutAtBreaks 0 (breaksFrom fold width 0 0 (words cs)) cs

theorem flatten_cutAtBreaks (start : Nat) (breaks : List Nat) (cs : List Char) :
    (cutAtBreaks start breaks cs).flatten = cs := by
  induction breaks generalizing start cs with
  | nil => simp [cutAtBreaks]
  | cons p more ih => simp [cutAtBreaks, ih]

/-- Breaking a line loses nothing. -/
theorem flatten_wrap (fold : Bool) (width : Nat) (cs : List Char) :
    (wrap fold width cs).flatten = cs :=
  flatten_cutAtBreaks _ _ _

end SourceAtlas.Terminal
