import SourceAtlas.Text.Blank
import SourceAtlas.Text.Cut
import SourceAtlas.Value.Basic

/-!
# TOML documents

What the reader of TOML documents has in common: its errors and its way of looking at a line in
quotes. The reader is line-oriented and lenient in places; a document that it refuses is
`malformed`, and some malformed documents break it in other ways.
-/

namespace SourceAtlas.Toml

/-- Why a document cannot be read. -/
inductive Error where
  /-- The document is not TOML. -/
  | malformed
  /-- The reader looks for something beyond the end of a text or list. -/
  | outOfRange
  /-- The reader takes something for a table that is none. -/
  | notTable
  /-- The reader takes something for a list that is none. -/
  | notList
  /-- A number is too large for the reader. -/
  | tooLarge
  /-- A string of several lines has no key. -/
  | noKey
  /-- Lists and tables are nested too deeply for the reader. -/
  | tooDeep
  deriving DecidableEq, Repr

/-- The first character of a text that should have one. -/
def first (cs : List Char) : Except Error Char :=
  match cs with
  | c :: _ => .ok c
  | [] => .error .outOfRange

/-- The last character of a text that should have one. -/
def last (cs : List Char) : Except Error Char :=
  match cs.getLast? with
  | some c => .ok c
  | none => .error .outOfRange

/-- A text without its first and last character. -/
def inner (cs : List Char) : List Char :=
  (cs.drop 1).dropLast

/-- The number of backslashes at the end of a text. -/
def trailingBackslashes (cs : List Char) : Nat :=
  (cs.reverse.takeWhile (· = '\\')).length

/-- The text ends in an odd number of backslashes, so the last one escapes what follows. -/
def endsEscaped (cs : List Char) : Bool :=
  trailingBackslashes cs % 2 = 1

/-- A quote of either kind. -/
def isQuote (c : Char) : Bool :=
  c = '"' || c = '\''

/-- Pieces between single quotes, to which pieces between double quotes are added until the last of
    them stands outside of single quotes. Answers with the pieces and with those that are left. -/
def closeSingle (pieces : List (List Char)) : List (List Char) →
    List (List Char) × List (List Char)
  | [] => (pieces, [])
  | next :: rest =>
    if pieces.length % 2 = 0 then
      let joined := pieces.getLastD [] ++ '"' :: next
      closeSingle (pieces.dropLast ++ Text.splitAll (· = '\'') joined) rest
    else (pieces, next :: rest)

/-- The pieces of a line at its quotes. The first piece stands outside of quotes. -/
def quotePieces (line : List Char) : List (List Char) :=
  match Text.splitAll (· = '"') line with
  | [] => []
  | [only] => Text.splitAll (· = '\'') only
  | head :: rest =>
    let (front, rest) :=
      if head.contains '\'' then closeSingle (Text.splitAll (· = '\'') head) rest
      else ([], head :: rest)
    match rest with
    | [] => front
    | head :: rest => front ++ Text.splitAll (· = '\'') head ++ rest

/-- The number of times a mark occurs in front of the piece outside of quotes in which it counts. -/
def marksBefore (mark : List Char) : (quoted : Bool) → List (List Char) → Nat
  | _, [] => 0
  | quoted, piece :: rest =>
    if !quoted && (Text.breakOn mark piece).isSome then 0
    else (Text.splitMark mark piece).length - 1 + marksBefore mark (!quoted) rest

end SourceAtlas.Toml
