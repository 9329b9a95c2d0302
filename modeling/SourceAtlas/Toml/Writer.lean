import SourceAtlas.Toml.Basic
import SourceAtlas.Value.Shown

/-!
# Writing TOML

A document of tables with entries, one entry a line, the tables inside a table after its entries.
Texts stand in double quotes and are escaped as `Text.quoted` escapes them, except that the escapes
of small code points are turned into ones that TOML knows, as far as that succeeds: see
`smallEscapes`. Main function: `Toml.write`.
-/

namespace SourceAtlas.Toml

/-- Makes one backslash of each pair of them. -/
def halveBackslashes : List Char → List Char
  | '\\' :: '\\' :: rest => '\\' :: halveBackslashes rest
  | c :: rest => c :: halveBackslashes rest
  | [] => []

/-- Why a document cannot be written. -/
inductive WriteError where
  /-- A text cannot be escaped. -/
  | badEscape
  /-- A list of tables holds something that is none. -/
  | notTable
  deriving DecidableEq, Repr

/-- What is written for an escape of two digits that follows a text: the beginning of one of four
    digits if the backslashes at the end of the text leave one for it, otherwise only its letter.
    A text of nothing but backslashes counts one less of them. -/
def escapeJoint (before : List Char) : List Char :=
  let backslashes := trailingBackslashes before
  let isLetter :=
    if backslashes = 0 then true
    else if backslashes = before.length then backslashes % 2 = 0
    else backslashes % 2 = 1
  if isLetter then ['x'] else ['u', '0', '0']

/-- Joins the pieces of a text at its escapes of two digits. A text that begins with such an escape
    and has no other cannot be written. -/
def joinEscapes : (n : Nat) → List (List Char) → Option (List Char)
  | _, [] => none
  | _, [piece] => some piece
  | 0, _ => none
  | n + 1, piece :: next :: rest =>
    let (piece, others) := if piece.isEmpty then (next, rest) else (piece, next :: rest)
    match others with
    | [] => none
    | next :: rest =>
      let before := halveBackslashes piece
      joinEscapes n ((before ++ escapeJoint before ++ next) :: rest)

/-- Turns the escapes of two digits into ones of four digits. -/
def smallEscapes (cs : List Char) : Option (List Char) :=
  let pieces := Text.splitMark ['\\', 'x'] cs
  joinEscapes pieces.length pieces

/-- Turns a text in single quotes into one in double quotes. -/
def doubleQuoted : List Char → List Char
  | '\\' :: '\'' :: rest => '\'' :: doubleQuoted rest
  | '"' :: rest => '\\' :: '"' :: doubleQuoted rest
  | c :: rest => c :: doubleQuoted rest
  | [] => []

/-- A content with its escapes turned, in double quotes. -/
def quotedChars (content : List Char) : Except WriteError (List Char) :=
  match smallEscapes content with
  | some cs => .ok ('"' :: cs ++ ['"'])
  | none => .error .badEscape

/-- A text in double quotes. -/
def textChars (s : String) : Except WriteError (List Char) :=
  let quoted := (Text.quoted s).toList
  let content := inner quoted
  quotedChars (if quoted.head? = some '\'' then doubleQuoted content else content)

/-- Drops a zero in front of an exponent. -/
def dropExponentZero : List Char → List Char
  | 'e' :: '+' :: '0' :: rest => 'e' :: '+' :: dropExponentZero rest
  | 'e' :: '-' :: '0' :: rest => 'e' :: '-' :: dropExponentZero rest
  | c :: rest => c :: dropExponentZero rest
  | [] => []

/-- Items in brackets, each with a blank before it and a comma after it. -/
def bracketed (items : List (List Char)) : List Char :=
  '[' :: items.flatMap (fun cs => ' ' :: cs ++ [',']) ++ [']']

mutual

/-- A value on one line. Bytes are written as their numbers and a table as its names; what TOML does
    not know is written as the text of the value. -/
def valueChars : Value → Except WriteError (List Char)
  | .text s => textChars s
  | .bool b => .ok (if b then "true".toList else "false".toList)
  | .int i => .ok (integerText i).toList
  | .float x => .ok (dropExponentZero (plainText x).toList)
  | .moment written => .ok written.toList
  | .list items | .tuple items => (itemsChars items).map bracketed
  | .bytes data => .ok (bracketed (data.map fun b => decimalChars b.toNat))
  | .record entries => ((entries.map Prod.fst).mapM textChars).map bracketed
  | .null => quotedChars Value.null.written.toList
  | .file path content => quotedChars (Value.file path content).written.toList

/-- The items of a list. -/
def itemsChars : List Value → Except WriteError (List (List Char))
  | [] => .ok []
  | item :: rest =>
    match valueChars item with
    | .error e => .error e
    | .ok cs => (itemsChars rest).map (cs :: ·)

end

/-- A character of a key without quotes. -/
def isKeyChar (c : Char) : Bool :=
  c.isAlphanum || c = '_' || c = '-'

/-- A key, in quotes if it needs them. A line feed at its end is tolerated. -/
def keyText (key : String) : Except WriteError String :=
  let cs := key.toList
  let cs := if cs.getLast? = some '\n' then cs.dropLast else cs
  if !cs.isEmpty && cs.all isKeyChar then .ok key else (textChars key).map .ofList

/-- Tables under their written names. -/
abbrev Tables := List (String × Entries)

/-- The entries of a table as text, and the tables inside it. -/
structure TableText where
  lines : String := ""
  /-- The lists of tables, which stand after the lines. -/
  lists : String := ""
  tables : Tables := []

/-- The text of the entries. -/
def TableText.text (t : TableText) : String := t.lines ++ t.lists

/-- The name of a table inside another one. -/
def innerName (outer name : String) : String :=
  if outer.isEmpty || outer.toList.getLast? = some '.' then outer ++ name
  else outer ++ "." ++ name

/-- How a table with a name is written. -/
abbrev TableWriter := String → Entries → Except WriteError TableText

/-- The items of a list that holds a table. -/
def tableItems? : Value → Option (List Value)
  | .list items => if items.any fun item => item matches .record _ then some items else none
  | _ => none

/-- Adds an entry to the text of a table. Tables are kept for later, lists of tables are written by
    `writeList`, and an entry without a value is left out. -/
def TableText.add (writeList : String → List Value → Except WriteError String) (outer : String)
    (t : TableText) (key : String) (v : Value) : Except WriteError TableText := do
  let name ← keyText key
  match v, tableItems? v with
  | .record entries, _ => return { t with tables := t.tables ++ [(name, entries)] }
  | .null, _ => return t
  | _, some items =>
    let text ← writeList (innerName outer name) items
    return { t with lists := t.lists ++ text }
  | v, none =>
    let line := name ++ " = " ++ .ofList (← valueChars v) ++ "\n"
    return { t with lines := t.lines ++ line }

/-- The tables inside tables, level by level, those without entries of their own left out; `outer`
    is the name of all of them, and there are at most `n` levels. -/
def innerTables (write : TableWriter) (outer : String) : (n : Nat) → Tables →
    Except WriteError String
  | 0, _ => .ok ""
  | n + 1, tables => do
    let written : List (String × TableText) ← tables.mapM fun (name, entries) => do
      return (name, ← write (outer ++ "." ++ name) entries)
    let here := written.map fun (name, t) =>
      if t.text.isEmpty then "" else "[" ++ outer ++ "." ++ name ++ "]\n" ++ t.text
    let below := written.flatMap fun (name, t) =>
      t.tables.map fun (inside, entries) => (name ++ "." ++ inside, entries)
    if below.isEmpty then return String.join here
    return String.join here ++ (← innerTables write outer n below)

/-- The entries of an item in a list of tables. Empty items count as empty tables. -/
def tableItem : Value → Except WriteError Entries
  | .record entries => .ok entries
  | v => if v.items?.any List.isEmpty then .ok [] else .error .notTable

/-- A list of tables with a name, whose tables are nested at most `depth` deep. -/
def writeTableList (write : TableWriter) (depth : Nat) (name : String) (items : List Value) :
    Except WriteError String := do
  let parts ← items.mapM fun item => do
    let t ← write name (← tableItem item)
    let own := if t.text.toList.head? = some '[' then "\n" ++ t.text else t.text ++ "\n"
    return "[[" ++ name ++ "]]\n" ++ own ++ (← innerTables write name depth t.tables)
  return String.join parts

/-- A table, in which lists of tables are nested at most `depth` deep. -/
def writeTable : (depth : Nat) → TableWriter
  | 0, outer, entries =>
    entries.foldlM (fun t (key, v) => t.add (fun _ _ => .error .notTable) outer key v) {}
  | depth + 1, outer, entries =>
    let writeList := writeTableList (writeTable depth) (depth + 1)
    entries.foldlM (fun t (key, v) => t.add writeList outer key v) {}

/-- Adds tables and those inside them to a document, level by level, at most `n` levels. A table
    that only holds other tables has no header. Headers follow a blank line, unless they stand at
    the beginning. -/
def writeLevels (write : TableWriter) : (n : Nat) → (done : List Char) → Tables →
    Except WriteError (List Char)
  | 0, done, _ => .ok done
  | n + 1, done, tables => do
    let written : List (String × TableText) ← tables.mapM fun (name, entries) => do
      return (name, ← write name entries)
    let done := written.foldl (fun done (name, t) =>
      if t.text.isEmpty && !t.tables.isEmpty then done
      else
        let gap :=
          if done.isEmpty || ['\n', '\n'].isSuffixOf done then [] else ['\n']
        done ++ gap ++ ("[" ++ name ++ "]\n" ++ t.text).toList) done
    let below := written.flatMap fun (name, t) =>
      t.tables.map fun (inside, entries) => (name ++ "." ++ inside, entries)
    if below.isEmpty then return done else writeLevels write n done below

/-- A document with entries and tables. -/
def write (entries : Entries) : Except WriteError String := do
  let depth := (Value.record entries).depth
  let top ← writeTable depth "" entries
  return .ofList (← writeLevels (writeTable depth) (depth + 1) top.text.toList top.tables)

end SourceAtlas.Toml
