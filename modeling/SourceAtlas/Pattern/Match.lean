import SourceAtlas.Pattern.Basic

/-!
# Matching line patterns

A backtracking matcher in continuation style. `Pattern.run p k s` tries the ways in which `p` can
match at `s`, in order of preference, and answers with the first one after which the continuation
`k` succeeds. Repetitions are bounded by the length of the rest, and an empty repetition ends the
loop, so the function is structurally recursive and needs no fuel from its caller.

Main functions: `matchHead` at the beginning of a text, `search` at the first place that fits, and
`count`, the number of matches that follow one another without overlap.
-/

namespace SourceAtlas

/-- A place in a text, with the parts reported so far. -/
structure Cursor where
  /-- The character in front, if any. -/
  before : Option Char
  /-- What is still to be read. -/
  rest : List Char
  /-- How many characters have been read. -/
  read : Nat := 0
  /-- The reported parts, the latest first. -/
  parts : List (Part × List Char) := []

namespace Cursor

/-- The beginning of a text. -/
def ofText (text : List Char) : Cursor := { before := none, rest := text }

/-- The place after the character `c`, which `rest` follows. -/
def next (s : Cursor) (c : Char) (rest : List Char) : Cursor :=
  { s with before := some c, rest := rest, read := s.read + 1 }

/-- The text between two places, the second of which comes later. -/
def between (s t : Cursor) : List Char :=
  s.rest.take (t.read - s.read)

/-- Whether a word begins or ends here. -/
def atEdge (s : Cursor) : Bool :=
  s.before.any Text.isWord != s.rest.head?.any Text.isWord

/-- The last report of a part. -/
def find? (s : Cursor) (label : Part) : Option (List Char) :=
  s.parts.lookup label

end Cursor

namespace Pattern

/-- What comes next after a piece that ended at a place. -/
abbrev Continuation := Cursor → Option Cursor

/-- Up to `n` repetitions of a step, as many as possible preferred. A repetition that reads
    nothing is not taken. -/
def repeatMost (step : Continuation → Continuation) (k : Continuation) : Nat → Continuation
  | 0, s => k s
  | n + 1, s =>
    (step (fun t => if s.read < t.read then repeatMost step k n t else none) s)
      <|> k s

/-- Up to `n` repetitions of a step, as few as possible preferred. -/
def repeatFew (step : Continuation → Continuation) (k : Continuation) : Nat → Continuation
  | 0, s => k s
  | n + 1, s =>
    k s <|>
      step (fun t => if s.read < t.read then repeatFew step k n t else none) s

/-- The first way to match the pattern here after which `k` succeeds, as the place that `k`
    reaches. -/
def run : Pattern → Continuation → Continuation
  | nothing, k, s => k s
  | one cls, k, s =>
    match s.rest with
    | [] => none
    | c :: rest => if cls.contains c then k (s.next c rest) else none
  | seq p q, k, s => p.run (q.run k) s
  | alt p q, k, s => p.run k s <|> q.run k s
  | many p, k, s => repeatMost p.run k s.rest.length s
  | fewest p, k, s => repeatFew p.run k s.rest.length s
  | part label p, k, s => p.run (fun t => k { t with parts := (label, s.between t) :: t.parts }) s
  | ahead p, k, s => if (p.run some s).isSome then k s else none
  | notAhead p, k, s => if (p.run some s).isSome then none else k s
  | start, k, s => if s.before.isNone then k s else none
  | finish, k, s => if s.rest = [] ∨ s.rest = ['\n'] then k s else none
  | edge, k, s => if s.atEdge then k s else none

/-- The match at the beginning of a text. -/
def matchHead (p : Pattern) (text : List Char) : Option Cursor :=
  p.run some (.ofText text)

/-- The first match in what follows the character `before`. -/
def searchAfter (p : Pattern) : Option Char → List Char → Option Cursor
  | before, [] => p.run some { before, rest := [] }
  | before, c :: rest =>
    p.run some { before, rest := c :: rest } <|> searchAfter p (some c) rest

/-- The first match in a text. -/
def search (p : Pattern) (text : List Char) : Option Cursor :=
  p.searchAfter none text

/-- The number of matches in what follows `before`, of which `skip` more characters belong to the
    match before. Empty matches do not count. -/
def countAfter (p : Pattern) : Option Char → Nat → List Char → Nat
  | _, _, [] => 0
  | _, skip + 1, c :: rest => countAfter p (some c) skip rest
  | before, 0, c :: rest =>
    match p.run some { before, rest := c :: rest } with
    | none => countAfter p (some c) 0 rest
    | some t =>
      if t.read = 0 then countAfter p (some c) 0 rest
      else 1 + countAfter p (some c) (t.read - 1) rest

/-- The number of matches in a text, from left to right and without overlap. -/
def count (p : Pattern) (text : List Char) : Nat :=
  p.countAfter none 0 text

end Pattern

end SourceAtlas
