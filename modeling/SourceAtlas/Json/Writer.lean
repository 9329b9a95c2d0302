import SourceAtlas.Text.Quoted
import SourceAtlas.Value.Basic

/-!
# Writing JSON

A value as JSON in ASCII. `Json.write` puts everything on one line, `Json.writeIndented` gives
every entry and item a line of its own; empty lists and objects stay together. Kinds that JSON does
not know are written as the text `null`: reports do not hold them.
-/

namespace SourceAtlas.Json

/-- A code unit as an escape. -/
def unitEscape (n : Nat) : List Char :=
  '\\' :: 'u' :: Text.hexChars 4 n

/-- A code point inside a JSON text. Beyond the first plane it is a pair of surrogates. -/
def escapePoint (n : Nat) : List Char :=
  if n = 34 then ['\\', '"']
  else if n = 92 then ['\\', '\\']
  else if n = 8 then ['\\', 'b']
  else if n = 9 then ['\\', 't']
  else if n = 10 then ['\\', 'n']
  else if n = 12 then ['\\', 'f']
  else if n = 13 then ['\\', 'r']
  else if 32 ≤ n ∧ n < 127 then [Char.ofNat n]
  else if n < 0x10000 then unitEscape n
  else
    unitEscape (0xD800 + (n - 0x10000) / 0x400) ++ unitEscape (0xDC00 + (n - 0x10000) % 0x400)

/-- A text in JSON. Half of a surrogate pair is written as the escape of its code point. -/
def textText (s : String) : String :=
  .ofList ('"' :: (Text.points s).flatMap escapePoint ++ ['"'])

/-- A floating-point number in JSON, with words for the numbers that JSON does not know. -/
def floatText (x : Float) : String :=
  match Binary64.ofFloat x with
  | .nan => "NaN"
  | .infinite negative => if negative then "-Infinity" else "Infinity"
  | .finite .. => plainText x

/-- Where items and entries stand: what comes in front of them, between them and after them. -/
structure Spacing where
  /-- What follows an opening bracket, at a depth. -/
  opening : Nat → String
  /-- What stands between two items, at a depth. -/
  between : Nat → String
  /-- What precedes a closing bracket, at a depth. -/
  closing : Nat → String

/-- A line feed and the indentation of a depth. -/
def newline (width depth : Nat) : String :=
  .ofList ('\n' :: List.replicate (width * depth) ' ')

/-- Everything on one line. -/
def oneLine : Spacing := ⟨fun _ => "", fun _ => ", ", fun _ => ""⟩

/-- Every item on a line of its own. -/
def indented (width : Nat) : Spacing :=
  ⟨fun depth => newline width (depth + 1), fun depth => "," ++ newline width (depth + 1),
    newline width⟩

mutual

/-- A value at a depth. -/
def render (spacing : Spacing) (depth : Nat) : Value → String
  | .bool true => "true"
  | .bool false => "false"
  | .int i => integerText i
  | .float x => floatText x
  | .text s => textText s
  | .list [] | .tuple [] => "[]"
  | .list items | .tuple items =>
    "[" ++ spacing.opening depth ++ renderItems spacing depth items ++ spacing.closing depth ++ "]"
  | .record [] => "\x7b\x7d"
  | .record entries =>
    "\x7b" ++ spacing.opening depth ++ renderEntries spacing depth entries
      ++ spacing.closing depth ++ "\x7d"
  | .null | .bytes _ | .file _ _ | .moment _ => "null"

/-- The items of a list at a depth. -/
def renderItems (spacing : Spacing) (depth : Nat) : List Value → String
  | [] => ""
  | [item] => render spacing (depth + 1) item
  | item :: rest =>
    render spacing (depth + 1) item ++ spacing.between depth ++ renderItems spacing depth rest

/-- The entries of an object at a depth. -/
def renderEntries (spacing : Spacing) (depth : Nat) : List (String × Value) → String
  | [] => ""
  | [(key, v)] => textText key ++ ": " ++ render spacing (depth + 1) v
  | (key, v) :: rest =>
    textText key ++ ": " ++ render spacing (depth + 1) v ++ spacing.between depth
      ++ renderEntries spacing depth rest

end

/-- A value on one line. -/
def write (v : Value) : String :=
  render oneLine 0 v

/-- A value with every item on a line of its own, indented by `width` for each level. -/
def writeIndented (width : Nat) (v : Value) : String :=
  render (indented width) 0 v

end SourceAtlas.Json
