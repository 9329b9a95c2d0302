import SourceAtlas.Text.Word
import SourceAtlas.Toml.Basic

/-!
# The lines of a TOML document

The first pass over a document goes through it character by character. It refuses badly written
keys and unbalanced quotes, blanks out comments, and joins the lines of a list. Main function:
`Toml.lines`.

The pass looks back at earlier characters; before the first one it meets the last ones again.
-/

namespace SourceAtlas.Toml

/-- Where the pass is with respect to a key. -/
inductive KeyState where
  /-- Not in a key. -/
  | outside
  /-- Inside a word of the key. -/
  | word
  /-- Behind a word of the key. -/
  | behind
  deriving DecidableEq, Repr

/-- The state of the pass. -/
structure Pass where
  chars : Array Char
  /-- The number of lists that are open. -/
  lists : Int := 0
  /-- Inside a string. -/
  inString : Bool := false
  quote : Option Char := none
  /-- Inside a string of several lines. -/
  multiline : Bool := false
  /-- In the header of an array of tables. -/
  inArrayHeader : Bool := false
  /-- In the header of a table. -/
  inHeader : Bool := false
  atLineStart : Bool := true
  key : KeyState := .outside
  dotted : Bool := false

namespace Pass

/-- The character at a position; before the beginning, the text is met from its end. -/
def at? (p : Pass) (i : Int) : Option Char :=
  if 0 ≤ i then p.chars[i.toNat]? else
    if -i ≤ p.chars.size then p.chars[p.chars.size - i.natAbs]? else none

/-- Replaces the character at a position. -/
def put (p : Pass) (i : Int) (c : Char) : Pass :=
  if 0 ≤ i then { p with chars := p.chars.setIfInBounds i.toNat c }
  else { p with chars := p.chars.setIfInBounds (p.chars.size - i.natAbs) c }

/-- How many of the characters in front of a position are the same character, at most `limit`. -/
def runBefore (p : Pass) (c : Char) (i : Int) : (limit : Nat) → Nat
  | 0 => 0
  | limit + 1 => if p.at? (i - 1) = some c then 1 + runBefore p c (i - 1) limit else 0

/-- A word of a dotted key follows. -/
def wordFollows (p : Pass) (i : Int) : Except Error Bool :=
  match p.at? (i + 1) with
  | none => .error .outOfRange
  | some c => .ok (!Text.isBlank c && c ≠ '.')

/-- Goes on with a dotted key: a word follows, or something between two words. -/
def continueKey (p : Pass) (i : Int) : Except Error Pass :=
  match p.wordFollows i with
  | .error e => .error e
  | .ok follows => .ok (if follows then { p with key := .word } else p)

/-- Reads a character of a key. Answers whether the character belongs to the key; otherwise it is
    the equals sign that ends it. -/
def keyStep (p : Pass) (i : Nat) (c : Char) : Except Error (Bool × Pass) :=
  if c = '\n' then .error .malformed
  else if p.inString then
    -- the backslashes before position zero are those at the end of the text, but they are not met
    let escaped := p.runBefore '\\' i i % 2 = 1
    if p.quote = some c && !escaped then
      .ok (true, { p with key := .behind, inString := false, quote := none })
    else .ok (true, p)
  else
    match p.key with
    | .word =>
      if Text.isBlank c then .ok (true, { p with key := .behind })
      else if c = '.' then .ok (true, { p with dotted := true })
      else if Text.isWord c || c = '-' then .ok (true, p)
      else if p.dotted && p.at? (i - 1) = some '.' && isQuote c then
        .ok (true, { p with inString := true, quote := some c })
      else endKey p c
    | .behind =>
      if Text.isBlank c then
        if p.dotted then (continueKey p i).map (true, ·) else .ok (true, p)
      else if c = '.' then
        (continueKey { p with dotted := true } i).map (true, ·)
      else endKey p c
    | .outside => endKey p c
where
  /-- The key ends here, with an equals sign. -/
  endKey (p : Pass) (c : Char) : Except Error (Bool × Pass) :=
    if c = '=' then .ok (false, { p with key := .outside, dotted := false })
    else .error .malformed

/-- Reads a single quote, which opens or closes a string. Three of them open or close one of
    several lines. -/
def singleQuote (p : Pass) (i : Nat) : Pass :=
  let p :=
    if p.runBefore '\'' i 2 = 2 then
      { p with multiline := !p.multiline, inString := !p.multiline }
    else { p with inString := !p.inString }
  { p with quote := if p.inString then some '\'' else none }

/-- Reads a double quote. A backslash in front of it takes its meaning away; in front of a pair of
    quotes, that is not looked at. -/
def doubleQuote (p : Pass) (i : Nat) : Pass :=
  let before := p.runBefore '"' i 2
  let backslashes :=
    if before = 0 then p.runBefore '\\' i (2 * p.chars.size)
    else if before = 2 then p.runBefore '\\' (i - 2) (2 * p.chars.size)
    else 0
  let p :=
    if backslashes % 2 = 1 then p
    else if before = 2 then { p with multiline := !p.multiline, inString := !p.multiline }
    else { p with inString := !p.inString }
  { p with quote := if p.inString then some '"' else none }

/-- Whether brackets and comments count here. -/
def isPlain (p : Pass) : Bool :=
  !p.inString && !p.inHeader && !p.inArrayHeader

/-- Blanks out the text from a position up to the end of the line, at most `n` characters. Answers
    whether a line break ends the line. -/
def blankOut (p : Pass) (i : Nat) : (n : Nat) → Pass × Bool
  | 0 => (p, false)
  | n + 1 =>
    match p.chars[i]? with
    | none => (p, false)
    | some '\n' => (p, true)
    | some _ => blankOut { p with chars := p.chars.setIfInBounds i ' ' } (i + 1) n

/-- Reads an opening bracket, which begins a header or a list. -/
def openBracket (p : Pass) (i : Nat) : Pass :=
  if p.atLineStart then
    if p.chars[i + 1]? = some '[' then { p with inArrayHeader := true }
    else { p with inHeader := true }
  else { p with lists := p.lists + 1 }

/-- Reads a closing bracket. -/
def closeBracket (p : Pass) (i : Nat) : Pass :=
  if p.inHeader then { p with inHeader := false }
  else if p.inArrayHeader then
    if p.at? (i - 1) = some ']' then { p with inArrayHeader := false } else p
  else { p with lists := p.lists - 1 }

/-- Reads a line break. Inside a list it becomes a blank; at the beginning or the end of a string
    of several lines it is absorbed by the quotes. -/
def lineBreak (p : Pass) (i : Nat) : Except Error Pass :=
  if p.inString || p.multiline then
    if !p.multiline then .error .malformed
    else
      let here : Int := i
      let before := p.at? (here - 1)
      if before.any isQuote && p.at? (here - 2) = before then
        let p := p.put i (before.getD ' ')
        .ok (if p.at? (here - 3) = before then p.put (here - 3) ' ' else p)
      else .ok p
  else if p.lists ≠ 0 then .ok (p.put i ' ')
  else .ok { p with atLineStart := true }

/-- Begins a line with a character that is not blank; unless it opens a header, it begins a key. -/
def beginLine (p : Pass) (c : Char) : Except Error Pass :=
  let p := { p with atLineStart := false }
  if p.inHeader || p.inArrayHeader then .ok p
  else if c = '=' then .error .malformed
  else .ok { p with key := .word }

/-- Reads a character outside of keys. Answers whether the pass goes on: a comment at the very end
    breaks it off. -/
def plainStep (p : Pass) (i : Nat) (c : Char) : Except Error (Bool × Pass) :=
  let p := if c = '\'' && p.quote ≠ some '"' then p.singleQuote i else p
  let p := if c = '"' && p.quote ≠ some '\'' then p.doubleQuote i else p
  let isComment := c = '#' && p.isPlain
  let (p, isEnded) := if isComment then p.blankOut i p.chars.size else (p, true)
  if !isEnded then .ok (false, p)
  else
    let p := if c = '[' && p.isPlain then p.openBracket i else p
    let p := if c = ']' && !p.inString then p.closeBracket i else p
    let now := if isComment then ' ' else c
    if c = '\n' then (p.lineBreak i).map (true, ·)
    else if p.atLineStart && now ≠ ' ' && now ≠ '\t' then (p.beginLine now).map (true, ·)
    else .ok (true, p)

/-- Reads the character at a position. -/
def step (p : Pass) (i : Nat) : Except Error (Bool × Pass) :=
  match p.chars[i]? with
  | none => .ok (false, p)
  | some c =>
    if p.key = .outside then p.plainStep i c
    else
      match p.keyStep i c with
      | .error e => .error e
      | .ok (true, p) => .ok (true, p)
      | .ok (false, p) => p.plainStep i c

/-- Reads up to `n` characters from a position on. -/
def run (p : Pass) (i : Nat) : (n : Nat) → Except Error Pass
  | 0 => .ok p
  | n + 1 =>
    match p.step i with
    | .error e => .error e
    | .ok (false, p) => .ok p
    | .ok (true, p) => run p (i + 1) n

end Pass

/-- The lines of a document, without comments, and with the lines of a list joined. -/
def lines (text : List Char) : Except Error (List (List Char)) :=
  let start : Pass := { chars := text.toArray }
  match start.run 0 text.length with
  | .error e => .error e
  | .ok p =>
    if p.key ≠ .outside || p.inString then .error .malformed
    else .ok (Text.splitAll (· = '\n') p.chars.toList)

end SourceAtlas.Toml
