import SourceAtlas.Toml.Lines
import SourceAtlas.Toml.Scalar

/-!
# Reading TOML

The second pass over a document goes through its lines: headers choose the table that the
following lines fill, all other lines add an entry to it. Main function: `Toml.read`.
-/

namespace SourceAtlas.Toml

/-! ## Values -/

/-- A list of strings, judged by its first item. -/
def isStringList (cs : List Char) : Bool :=
  (Text.strip (inner cs)).head?.any isQuote

/-- A text that is empty or has the same quote, or other character, at both ends, the last one not
    escaped. -/
def isBounded (cs : List Char) : Bool :=
  match cs with
  | [] => true
  | c :: rest => (c :: rest).getLast? = some c && !endsEscaped rest.dropLast

/-- A text that begins with three quotes and does not end with three of them. -/
def opensTriple (cs : List Char) : Bool :=
  match cs with
  | a :: b :: c :: rest =>
    a = b && b = c
      && (match (a :: b :: c :: rest).reverse with
        | _ :: y :: z :: _ => y ≠ a && z ≠ a
        | _ => false)
  | _ => false

/-- Joins the pieces of a list of strings at commas until the first one is a whole string. -/
def joinString (piece : List Char) : List (List Char) → Except Error (List Char × List (List Char))
  | [] =>
    let item := Text.strip piece
    if !isBounded item || opensTriple item then .error .outOfRange else .ok (piece, [])
  | next :: rest =>
    let item := Text.strip piece
    if !isBounded item || opensTriple item then joinString (piece ++ ',' :: next) rest
    else .ok (piece, next :: rest)

/-- Joins the pieces of a list of strings; `n` bounds their number. The last piece is not looked
    at. -/
def joinStrings : (n : Nat) → List (List Char) → Except Error (List (List Char))
  | 0, pieces => .ok pieces
  | _, [] => .ok []
  | _, [piece] => .ok [piece]
  | n + 1, piece :: rest =>
    match joinString piece rest with
    | .error e => .error e
    | .ok (piece, rest) => (joinStrings n rest).map (piece :: ·)

/-- The state while a list of inline tables is cut into its tables. -/
structure TableCut where
  /-- The tables that have been cut off. -/
  found : Array (List Char) := #[]
  start : Nat := 1
  stop : Nat := 2
  depth : Nat
  inString : Bool := false

/-- The first position from `i` on, below `limit`, with an opening brace; `limit` or `i` itself if
    there is none. -/
def findBrace (cs : Array Char) (limit : Nat) : (n : Nat) → (i : Nat) → Nat
  | 0, i => i
  | n + 1, i => if i < limit && cs[i]? ≠ some '{' then findBrace cs limit n (i + 1) else i

/-- Reads one more character of a list of inline tables. -/
def TableCut.step (cs : Array Char) (s : TableCut) : TableCut :=
  let c := cs[s.stop]?
  let inString :=
    if c.any isQuote then
      let flips :=
        if s.inString then trailingBackslashes ((cs.toList.take s.stop)) else 0
      if flips % 2 = 1 then s.inString else !s.inString
    else s.inString
  let s := { s with inString }
  let s := if !inString && c = some '{' then { s with depth := s.depth + 1 } else s
  if inString || c ≠ some '}' then { s with stop := s.stop + 1 }
  else if 1 < s.depth then { s with depth := s.depth - 1, stop := s.stop + 1 }
  else
    let stop := s.stop + 1
    let start := findBrace cs (cs.size - 1) cs.size (stop + 1)
    { s with
      found := s.found.push (slice s.start stop cs.toList)
      start, stop := start + 1 }

/-- Reads up to `n` characters of a list of inline tables. -/
def TableCut.run (cs : Array Char) : (n : Nat) → TableCut → TableCut
  | 0, s => s
  | n + 1, s => if s.stop < cs.size - 1 then run cs n (s.step cs) else s

/-- The inline tables of a list. -/
def cutTables (cs : List Char) : List (List Char) :=
  let start : TableCut := { depth := if cs[1]? = some '{' then 1 else 0 }
  (start.run cs.toArray cs.length).found.toList

/-- The items of a list of lists, cut at the commas outside of brackets. -/
def cutNested : (depth : Int) → List Char → List (List Char)
  | _, [] => [[]]
  | depth, c :: rest =>
    if c = ',' && depth = 0 then [] :: cutNested depth rest
    else
      let depth := if c = '[' then depth + 1 else if c = ']' then depth - 1 else depth
      match cutNested depth rest with
      | [] => [[c]]
      | piece :: pieces => (c :: piece) :: pieces

/-- The written items of a list in brackets. -/
def listPieces (cs : List Char) : Except Error (List (List Char)) :=
  let cs := Text.strip cs
  let content := inner cs
  let isFlat := match Text.splitLast '[' content with
    | none => true
    | some _ => !(Text.strip (content.takeWhile (· ≠ '['))).isEmpty
  if isFlat then
    let pieces :=
      if (Text.strip content).head? = some '{' then cutTables cs
      else Text.splitAll (· = ',') content
    if isStringList cs then joinStrings pieces.length pieces else .ok pieces
  else .ok (cutNested 0 content)

/-- How a value is read. A number has to be tidy. -/
abbrev ValueReader := (isTidy : Bool) → List Char → Except Error (Value × ValueType)

/-- The values of written items, the blank ones left out. All must be of one type. -/
def readItems (readValue : ValueReader) :
    (type : Option ValueType) → List (List Char) → Except Error (List Value)
  | _, [] => .ok []
  | type, piece :: rest =>
    let piece := Text.strip piece
    if piece.isEmpty then readItems readValue type rest
    else
      match readValue true piece with
      | .error e => .error e
      | .ok (v, t) =>
        if type.any (· ≠ t) then .error .malformed
        else (readItems readValue (some t) rest).map (v :: ·)

/-- A string of several lines that has been opened but not closed. -/
structure OpenString where
  key : String
  /-- What has been read of it, the last character first. -/
  reversed : List Char
  /-- The first character of it: a quote, or a bracket if it stands in a list. -/
  opening : Option Char
  /-- A line break has been read. -/
  hasBreak : Bool
  /-- Its last line ends in a backslash. -/
  continued : Bool

/-- A string that a value opens. A backslash at the end takes the line break away. -/
def OpenString.ofValue (key : String) (value : List Char) : OpenString :=
  let continued := endsEscaped value
  { key, opening := value.head?, continued
    reversed := if continued then value.reverse.drop 1 else '\n' :: value.reverse
    hasBreak := !continued }

/-- The string with a line more. -/
def OpenString.push (s : OpenString) (line : List Char) : OpenString :=
  let reversed := line.reverse ++ s.reversed
  let continued := (reversed.takeWhile (· = '\\')).length % 2 = 1
  { s with
    reversed := if continued then reversed.drop 1 else '\n' :: reversed
    hasBreak := s.hasBreak || !continued
    continued }

/-- A line closes the string. -/
def OpenString.isClosedBy (s : OpenString) (line : List Char) : Except Error Bool :=
  if s.opening = some '[' then (last line).map (· = ']')
  else match line.reverse with
    | x :: y :: z :: _ => .ok (s.opening = some x && x = y && y = z)
    | _ => .ok false

/-- The last item of a list of strings, cut at commas until one begins with a quote. -/
def lastString : (pieces : List (List Char)) → Except Error (List Char)
  | [] => .ok []
  | [piece] => .ok piece
  | piece :: next :: rest =>
    match piece with
    | [] => .error .outOfRange
    | c :: _ =>
      if isQuote c then .ok piece else lastString ((next ++ ',' :: piece) :: rest)
termination_by pieces => pieces.length

/-- The value opens a string of several lines; if it does so inside a list, the last string of the
    list is looked at. -/
def opensLines (cs : List Char) : Except Error Bool := do
  if cs.length < 3 then return false
  let p ←
    if cs.head? = some '[' && (Text.strip cs).getLast? ≠ some ']' && isStringList cs then
      lastString (Text.splitAll (· = ',') (Text.strip (cs.drop 1))).reverse
    else pure cs
  match p with
  | [] => throw .outOfRange
  | a :: rest =>
    if !isQuote a then return false
    match rest with
    | [] => throw .outOfRange
    | b :: rest =>
      if b ≠ a then return false
      match rest with
      | [] => throw .outOfRange
      | c :: _ =>
        if c ≠ a then return false
        let closes := match p.reverse with
          | x :: y :: z :: _ => x = a && y = a && z = a
          | _ => false
        return !(5 < p.length && closes)

/-! ## Entries -/

/-- The text after an equals sign may be a value of its own. Otherwise it goes on to the next
    equals sign. -/
def startsValue (cs : List Char) : Except Error Bool :=
  match cs with
  | [] => .ok true
  | c :: _ =>
    if c = ' ' || c = '\t' || isQuote c || c = '[' || c = '{'
        || Text.strip cs = "true".toList || Text.strip cs = "false".toList
        || (anyFloat? cs).isSome then .ok true
    else (isDate cs).map (· || (timeParts? cs).isSome)

/-- Low lines in a value that starts with a digit do not count. -/
def dropDigitMarks (cs : List Char) : List Char :=
  if cs.head?.any Char.isDigit then cs.filter (· ≠ '_') else cs

/-- A line with an entry, cut at an equals sign. -/
structure CutEntry where
  key : List Char
  value : List Char
  /-- Every text that has been tried as a value is a tidy number. -/
  isTidy : Bool

/-- Cuts a line at its equals signs, `count` of them, or more until a value begins after the last
    one; at most `n` more. What stands after the last one is `value`, from which low lines may have
    been dropped. -/
def cutEntryFrom (line : List Char) : (n count : Nat) → (value : List Char) → (isTidy : Bool) →
    Except Error CutEntry
  | 0, _, _, _ => .error .malformed
  | n + 1, count, value, isTidy =>
    match startsValue value with
    | .error e => .error e
    | .ok true =>
      let pieces := Text.splitAtMost count ['='] line
      .ok ⟨Text.strip (Text.joinWith ['='] pieces.dropLast), Text.strip value, isTidy⟩
    | .ok false =>
      let next := (Text.splitAtMost (count + 1) ['='] line).getLastD []
      if value = next then .error .malformed
      else cutEntryFrom line n (count + 1) next (isTidy && isTidyNumber next)

/-- Cuts a line at its equals signs, `count` of them or more. -/
def cutEntry (line : List Char) (count : Nat) : Except Error CutEntry :=
  let value := (Text.splitAtMost count ['='] line).getLastD []
  cutEntryFrom line (line.length + 1) count (dropDigitMarks value) (isTidyNumber value)

/-- The words of a dotted key. Every other piece stands in quotes. -/
def dottedWords : (quoted : Bool) → List (List Char) → List (List Char)
  | _, [] => []
  | true, piece :: rest => piece :: dottedWords false rest
  | false, piece :: rest =>
    (Text.splitAll (· = '.') piece).map Text.strip ++ dottedWords true rest

/-- The words of a list without the empty ones at its end. -/
def dropEmptyEnd (words : List (List Char)) : List (List Char) :=
  (words.reverse.dropWhile List.isEmpty).reverse

/-- The tables that a key leads through, and its last word. Blanks around the words before the last
    one belong to them, unless there are quotes in the key. -/
def keyPath (key : List Char) : Except Error (List String × String) :=
  if key.contains '.' then
    let words := dropEmptyEnd
      (if key.any isQuote then dottedWords false (quotePieces key)
      else Text.splitAll (· = '.') key)
    match words.getLast? with
    | none => .error .outOfRange
    | some word =>
      .ok ((words.dropLast.filter (!·.isEmpty)).map .ofList, .ofList (Text.strip word))
  else
    match key, key.getLast? with
    | c :: _, some d =>
      if isQuote c && c = d then (unescape (inner key)).map fun k => ([], .ofList k)
      else .ok ([], .ofList key)
    | _, _ => .error .outOfRange

/-- Adds an entry to a table, inside the tables that a path leads through. These are made if they
    are missing; the entry must not be there yet. Without a value, only the tables are made. -/
def addEntry (v : Option Value) (key : String) : (path : List String) → Value → Except Error Value
  | [], .record entries =>
    if (entries.lookup key).isSome then .error .malformed
    else .ok (.record (match v with
      | some v => Entries.insert entries key v
      | none => entries))
  | [], _ => .error .malformed
  | word :: path, .record entries =>
    let inside := (entries.lookup word).getD (.record [])
    (addEntry v key path inside).map fun inside => .record (Entries.insert entries word inside)
  | _ :: _, _ => .error .notTable

/-- A path leads through tables only, as far as there is anything. -/
def checkPath : (path : List String) → Value → Except Error Unit
  | [], _ => .ok ()
  | word :: path, .record entries =>
    match entries.lookup word with
    | some inside => checkPath path inside
    | none => .ok ()
  | _ :: _, _ => .error .notTable

/-- Cuts an inline table at the commas between its entries. -/
def cutInline : (piece : Option (List Char)) → List (List Char) → Except Error (List (List Char))
  | none, [] => .ok []
  | some _, [] => .error .malformed
  | front, next :: rest =>
    let piece := match front with
      | some front => front ++ ',' :: next
      | none => next
    if !piece.contains '=' then .error .malformed
    else
      let value := Text.strip ((piece.dropWhile (· ≠ '=')).drop 1)
      match value, value.getLast? with
      | c :: _, some d =>
        let isWhole := (isQuote c && c = d) || c = '-' || c.isDigit || value = "true".toList
          || value = "false".toList || (c = '[' && d = ']') || (c = '{' && d = '}')
        if isWhole then (cutInline none rest).map (piece :: ·) else cutInline (some piece) rest
      | _, _ => .error .outOfRange

/-- The written entries of an inline table. -/
def inlinePieces (cs : List Char) : Except Error (List (List Char)) :=
  let pieces := Text.splitAll (· = ',') (inner cs)
  match pieces with
  | [piece] => if (Text.strip piece).isEmpty then .ok [] else cutInline none [piece]
  | pieces => cutInline none pieces

/-- Adds the entry of a line to a table. If the line opens a string of several lines, the entry is
    not complete. -/
def readEntry (readValue : ValueReader) (table : Value) (line : List Char) :
    Except Error (Value × Option OpenString) := do
  let entry ← cutEntry line (1 + marksBefore ['='] false (quotePieces line))
  let (path, word) ← keyPath entry.key
  checkPath path table
  if ← opensLines entry.value then
    let table ← addEntry none word path table
    if word.isEmpty then throw .noKey
    return (table, some (.ofValue word entry.value))
  else
    let (v, _) ← readValue entry.isTidy entry.value
    return (← addEntry (some v) word path table, none)

/-- Adds the entries of an inline table, up to one that is not complete. -/
def readEntries (readValue : ValueReader) :
    (table : Value) → List (List Char) → Except Error Value
  | table, [] => .ok table
  | table, line :: rest =>
    match readEntry readValue table line with
    | .error e => .error e
    | .ok (table, none) => readEntries readValue table rest
    | .ok (table, some _) => .ok table

/-- A value. The reader has room for lists and inline tables inside each other: a list takes up two
    places and an inline table three. -/
def readValue : (room : Nat) → ValueReader
  | room + 3, isTidy, cs =>
    match cs with
    | '[' :: _ =>
      match listPieces cs with
      | .error e => .error e
      | .ok pieces =>
        (readItems (readValue (room + 1)) none pieces).map fun items => (.list items, .array)
    | '{' :: _ =>
      match inlinePieces cs with
      | .error e => .error e
      | .ok pieces =>
        (readEntries (readValue room) (.record []) pieces).map fun t => (t, .inlineTable)
    | _ => readScalar isTidy cs
  | _, isTidy, cs =>
    match cs with
    | '[' :: _ | '{' :: _ => .error .tooDeep
    | _ => readScalar isTidy cs

/-- The room of the reader. -/
def readerRoom : Nat := 990

/-- A value in a document. -/
def readWhole : ValueReader :=
  readValue readerRoom

/-! ## Headers -/

/-- A step from a value to a value inside it. -/
inductive Place where
  | entry (key : String)
  /-- The last item of a list. -/
  | lastItem
  deriving DecidableEq, Repr

/-- The value at a place inside a value. -/
def valueAt : List Place → Value → Option Value
  | [], v => some v
  | .entry key :: rest, .record entries => (entries.lookup key).bind (valueAt rest)
  | .lastItem :: rest, .list items => items.getLast?.bind (valueAt rest)
  | _, _ => none

/-- Changes the value at a place inside a value. -/
def changeAt (change : Value → Value) : List Place → Value → Value
  | [], v => change v
  | .entry key :: rest, .record entries =>
    match entries.lookup key with
    | some v => .record (Entries.insert entries key (changeAt change rest v))
    | none => .record entries
  | .lastItem :: rest, .list items =>
    match items.getLast? with
    | some v => .list (items.dropLast ++ [changeAt change rest v])
    | none => .list items
  | _, v => v

/-- What the second pass knows. -/
structure Document where
  root : Value := .record []
  /-- Where the table is that the lines fill. -/
  place : List Place := []
  /-- The tables that only the header of a table inside them has made. -/
  implied : List String := []
  pending : Option OpenString := none

/-- A new table, as an item of a new list if the header asks for that. -/
def freshTable (isList : Bool) : Value :=
  if isList then .list [.record []] else .record []

/-- Goes into the value at a place by one word of a header. -/
def enterWord (isList isLast : Bool) (d : Document) (word : String) : Except Error Document :=
  match valueAt d.place d.root with
  | some (.record entries) =>
    match entries.lookup word with
    | none =>
      let d := if isLast then d else { d with implied := word :: d.implied }
      let fresh := freshTable (isLast && isList)
      .ok { d with
        root := changeAt (fun _ => .record (Entries.insert entries word fresh)) d.place d.root
        place := d.place ++ [.entry word] }
    | some old =>
      let place := d.place ++ [.entry word]
      if !isLast then .ok { d with place }
      else if d.implied.contains word then
        if isList then .error .malformed
        else .ok { d with place, implied := d.implied.erase word }
      else if isList then
        match old with
        | .list items =>
          let root := changeAt (fun _ => .list (items ++ [.record []])) place d.root
          .ok { d with place, root }
        | _ => .error .notList
      else .error .malformed
  | some (.list items) =>
    match items.getLast? with
    | none => .error .outOfRange
    | some (.record entries) =>
      let place := d.place ++ [.lastItem]
      let root :=
        if (entries.lookup word).isSome then d.root
        else
          let table := freshTable (isLast && isList)
          changeAt (fun _ => .record (Entries.insert entries word table)) place d.root
      .ok { d with root, place := place ++ [.entry word] }
    | some _ => .error .notTable
  | some (.text "") => .error .outOfRange
  | _ => .error .notTable

/-- In the header of an array of tables, every list is entered at its last item. -/
def enterList (isList : Bool) (d : Document) : Except Error Document :=
  if !isList then .ok d
  else
    match valueAt d.place d.root with
    | some (.record _) => .ok d
    | some (.list []) => .error .outOfRange
    | some (.list _) => .ok { d with place := d.place ++ [.lastItem] }
    | some (.text "") => .error .outOfRange
    | _ => .error .notTable

/-- Goes through the words of a header. -/
def enterWords (isList : Bool) : Document → List String → Except Error Document
  | d, [] => .ok d
  | d, word :: rest =>
    if word.isEmpty then .error .malformed
    else
      match (enterWord isList rest.isEmpty d word).bind (enterList isList) with
      | .error e => .error e
      | .ok d => enterWords isList d rest

/-- A word of a header without quotes. -/
def isHeaderWord (cs : List Char) : Bool :=
  !cs.isEmpty && cs.all fun c => c.isAlphanum || c = '_' || c = '-'

/-- A word of a header in quotes, joined from pieces at its dots until the quotes match. The header
    has `left` pieces from the first one of the word on, and may be gone beyond by two. -/
def quotedWord (pieces : List (List Char)) : (n used : Nat) → Except Error (List Char × Nat)
  | 0, _ => .error .malformed
  | n + 1, used =>
    let word := Text.strip (Text.joinWith ['.'] (pieces.take used))
    match word, word.getLast? with
    | c :: rest, some d =>
      if c = d && !rest.isEmpty then .ok (inner word, used) else quotedWord pieces n (used + 1)
    | _, _ => .error .outOfRange

/-- The words of a header, from its pieces at the dots; `total` is the number of all pieces, and
    `skip` of the following ones belong to the word before. -/
def headerWords (total : Nat) : (skip : Nat) → List (List Char) → Except Error (List String)
  | _, [] => .ok []
  | skip + 1, _ :: rest => headerWords total skip rest
  | 0, piece :: rest =>
    let word := Text.strip piece
    if word.head?.any isQuote then
      match quotedWord (word :: rest) (total + 3) 1 with
      | .error e => .error e
      | .ok (word, used) =>
        (headerWords total (used - 1) rest).map (.ofList word :: ·)
    else if isHeaderWord word then (headerWords total 0 rest).map (.ofList word :: ·)
    else .error .malformed

/-- Reads a header. -/
def readHeader (d : Document) (line : List Char) : Except Error Document := do
  if line.length = 1 then throw .malformed
  let isList := (line.drop 1).head? = some '['
  let closing := List.replicate (if isList then 2 else 1) ']'
  let line := line.drop closing.length
  let count := 1 + marksBefore closing false (quotePieces line)
  let pieces := Text.splitAtMost count closing line
  if pieces.length < count + 1 || !(Text.strip (pieces.getLastD [])).isEmpty then throw .malformed
  let groups := Text.splitAll (· = '.') (Text.joinWith closing pieces.dropLast)
  let words ← headerWords groups.length 0 groups
  enterWords isList { d with place := [] } words

/-! ## Lines -/

/-- Goes on with a string of several lines. -/
def continueString (d : Document) (s : OpenString) (line : List Char) : Except Error Document := do
  if ← s.isClosedBy line then
    let (v, _) ← readWhole true (s.reversed.reverse ++ line)
    match valueAt d.place d.root with
    | some (.record entries) =>
      return { d with
        root := changeAt (fun _ => .record (Entries.insert entries s.key v)) d.place d.root
        pending := none }
    | _ => throw .notTable
  else
    return { d with pending := some (s.push line) }

/-- Reads an inline table that stands on a line of its own. -/
def readInlineLine (d : Document) (line : List Char) : Except Error Document := do
  if line.getLast? ≠ some '}' then throw .malformed
  let pieces ← inlinePieces line
  match valueAt d.place d.root with
  | none => throw .notTable
  | some table =>
    let table ← readEntries readWhole table pieces
    return { d with root := changeAt (fun _ => table) d.place d.root }

/-- Reads a line with an entry. -/
def readEntryLine (d : Document) (line : List Char) : Except Error Document := do
  match valueAt d.place d.root with
  | none => throw .notTable
  | some table =>
    let (table, pending) ← readEntry readWhole table line
    return { d with root := changeAt (fun _ => table) d.place d.root, pending }

/-- Reads one line. -/
def readLine (d : Document) (line : List Char) : Except Error Document :=
  match d.pending with
  | some s =>
    let line :=
      if s.reversed.isEmpty || s.continued || !s.hasBreak then Text.strip line else line
    if line.isEmpty && s.continued then .ok d else continueString d s line
  | none =>
    let line := Text.strip line
    match line with
    | [] => .ok d
    | '[' :: _ => readHeader d line
    | '{' :: _ => readInlineLine d line
    | _ => if line.contains '=' then readEntryLine d line else .ok d

/-- Reads several lines. -/
def readLines : Document → List (List Char) → Except Error Document
  | d, [] => .ok d
  | d, line :: rest =>
    match readLine d line with
    | .error e => .error e
    | .ok d => readLines d rest

/-- Gives all line breaks one form. -/
def plainBreaks : List Char → List Char
  | '\r' :: '\n' :: rest => '\n' :: plainBreaks rest
  | '\r' :: rest => '\n' :: plainBreaks rest
  | c :: rest => c :: plainBreaks rest
  | [] => []

/-- The table that a document describes. -/
def read (text : String) : Except Error Value :=
  match lines (plainBreaks text.toList) with
  | .error e => .error e
  | .ok ls => (readLines {} ls).map (·.root)

end SourceAtlas.Toml
