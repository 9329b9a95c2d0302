import SourceAtlas.Terminal.Wrap
import SourceAtlas.Text.Cut

/-!
# Setting texts

A text is set in a column of a given width: its lines are broken, aligned, and cut off where they
still do not fit. Main function: `setText`.
-/

namespace SourceAtlas.Terminal

open Text

/-- Where a line stands in its column. -/
inductive Alignment where
  /-- As it is, without blanks after it. -/
  | plain
  | left
  | center
  | right
  deriving DecidableEq, Repr

/-- What becomes of a word that is too long for a line. -/
inductive Overflow where
  /-- It goes on in the next line. -/
  | fold
  /-- It is cut off, and an ellipsis takes its end. -/
  | ellipsis
  deriving DecidableEq, Repr

/-- How texts are set. -/
structure Setting where
  width : Nat
  alignment : Alignment := .plain
  overflow : Overflow := .fold

/-- The line without the blanks at its end that make it longer than a number of characters. -/
def dropExcessBlanks (length : Nat) (cs : List Char) : List Char :=
  let tail := cs.length - (dropEnd isBlank cs).length
  cs.take (cs.length - min tail (cs.length - length))

/-- The line, cut off if it is too long. -/
def Setting.truncate (s : Setting) (cs : List Char) : List Char :=
  if columns cs ≤ s.width then cs
  else match s.overflow with
    | .fold => fit s.width cs
    | .ellipsis => fit (s.width - 1) cs ++ ['…']

/-- The line in its place. -/
def Setting.align (s : Setting) (cs : List Char) : List Char :=
  match s.alignment with
  | .plain => s.truncate cs
  | .left => padTo s.width (s.truncate cs)
  | .right =>
    let cs := s.truncate (dropEnd isBlank cs)
    blanks (s.width - columns cs) ++ cs
  | .center =>
    let cs := s.truncate (dropEnd isBlank cs)
    padTo s.width (blanks ((s.width - columns cs) / 2) ++ cs)

/-- One line of a text in its column. -/
def Setting.setLine (s : Setting) (cs : List Char) : List (List Char) :=
  let cs := if cs.contains '\t' then expandTabs cs else cs
  (wrap (s.overflow = .fold) s.width cs).map fun line =>
    s.truncate (s.align (dropExcessBlanks s.width line))

/-- A text in its column. -/
def Setting.setText (s : Setting) (cs : List Char) : List (List Char) :=
  (splitAll (· = '\n') cs).flatMap s.setLine

/-- The columns that a text takes if no line is broken. -/
def naturalWidth (cs : List Char) : Nat :=
  ((lines cs).map columns).foldl max 0

end SourceAtlas.Terminal
