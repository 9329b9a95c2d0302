import SourceAtlas.Decimal.Written
import SourceAtlas.Text.CodePoint
import SourceAtlas.Value.Basic

/-!
# Reading JSON

A recursive-descent reader of JSON texts. Besides the standard it takes the words `NaN`, `Infinity`
and `-Infinity`; of several entries with one name the last one counts, in the place of the first.
`Json.read` reads a whole text within limits on the nesting and on the digits of a whole number, and
says what is wrong otherwise (`Json.Error.message`).
-/

namespace SourceAtlas.Json

/-- Why a text is not JSON, or goes beyond the limits of the reader. -/
inductive Error where
  | byteOrderMark
  | expectedValue
  | expectedName
  | expectedColon
  | expectedComma
  | unterminatedText
  | controlCharacter
  | badEscape
  | badUnicodeEscape
  | extraData
  /-- A whole number has more digits than the limit allows. -/
  | tooManyDigits (limit digits : Nat)
  /-- Lists and objects are nested more deeply than the limit allows. -/
  | tooDeep
  deriving DecidableEq, Repr

/-- The wording of an error. -/
def Error.message : Error → String
  | byteOrderMark => "Unexpected UTF-8 BOM (decode using utf-8-sig)"
  | expectedValue => "Expecting value"
  | expectedName => "Expecting property name enclosed in double quotes"
  | expectedColon => "Expecting ':' delimiter"
  | expectedComma => "Expecting ',' delimiter"
  | unterminatedText => "Unterminated string starting at"
  | controlCharacter => "Invalid control character at"
  | badEscape => "Invalid \\escape"
  | badUnicodeEscape => "Invalid \\uXXXX escape"
  | extraData => "Extra data"
  | tooManyDigits limit digits =>
    "Exceeds the limit (" ++ decimalText limit
      ++ " digits) for integer string conversion: value has " ++ decimalText digits
      ++ " digits; use sys.set_int_max_str_digits() to increase the limit"
  | tooDeep => "maximum recursion depth exceeded"

/-- What a reader answers: a result and the rest of the text. -/
abbrev Read (α : Type) := Except Error (α × List Char)

/-- Blank space between the tokens. -/
def isSpace (c : Char) : Bool :=
  c = ' ' || c = '\t' || c = '\n' || c = '\r'

/-- The text without the blank space in front. -/
def skipSpace (cs : List Char) : List Char :=
  cs.dropWhile isSpace

/-- The value of a digit in base sixteen. -/
def hexValue? (c : Char) : Option Nat :=
  if c.isDigit then some (c.toNat - 48)
  else if 'a' ≤ c ∧ c ≤ 'f' then some (c.toNat - 87)
  else if 'A' ≤ c ∧ c ≤ 'F' then some (c.toNat - 55)
  else none

/-- The code unit that four digits in base sixteen write. -/
def hexUnit? : List Char → Option (Nat × List Char)
  | a :: b :: c :: d :: rest => do
    let a ← hexValue? a
    let b ← hexValue? b
    let c ← hexValue? c
    let d ← hexValue? d
    return (((a * 16 + b) * 16 + c) * 16 + d, rest)
  | _ => none

/-- The character that a one-letter escape stands for. -/
def simpleEscape? (c : Char) : Option Nat :=
  match c with
  | '"' => some 34
  | '\\' => some 92
  | '/' => some 47
  | 'b' => some 8
  | 'f' => some 12
  | 'n' => some 10
  | 'r' => some 13
  | 't' => some 9
  | _ => none

/-- The code point of an escape, of which the backslash and the letter have been read, and how many
    characters follow. Two escapes in a row that write a surrogate pair stand for one code point. -/
def escapedPoint? (digits : List Char) : Option (Nat × Nat) :=
  match hexUnit? digits with
  | none => none
  | some (high, '\\' :: 'u' :: more) =>
    if 0xD800 ≤ high ∧ high ≤ 0xDBFF then
      match hexUnit? more with
      | none => none
      | some (low, _) =>
        if 0xDC00 ≤ low ∧ low ≤ 0xDFFF then
          some (0x10000 + (high - 0xD800) * 0x400 + (low - 0xDC00), 10)
        else some (high, 4)
    else some (high, 4)
  | some (unit, _) => some (unit, 4)

/-- The characters of a text up to its closing quote. `skip` characters of the input belong to an
    escape that has been read. -/
def readText : Nat → List Char → Read (List Char)
  | _, [] => .error .unterminatedText
  | skip + 1, _ :: rest => readText skip rest
  | 0, '"' :: rest => .ok ([], rest)
  | 0, '\\' :: rest =>
    match rest with
    | [] => .error .unterminatedText
    | 'u' :: digits =>
      match escapedPoint? digits with
      | none => .error .badUnicodeEscape
      | some (n, length) =>
        (readText (length + 1) rest).map fun (cs, rest) => (Text.ofPoint n :: cs, rest)
    | c :: _ =>
      match simpleEscape? c with
      | none => .error .badEscape
      | some n => (readText 1 rest).map fun (cs, rest) => (Text.ofPoint n :: cs, rest)
  | 0, c :: rest =>
    if c.toNat ≤ 0x1F then .error .controlCharacter
    else (readText 0 rest).map fun (cs, rest) => (c :: cs, rest)

/-- The value of a list of digits. -/
def digitsValue (digits : List Char) : Nat :=
  digits.foldl (fun n c => n * 10 + (c.toNat - 48)) 0

/-- The digits of a whole number: a zero alone, or digits that start with another one. -/
def wholeDigits : List Char → Option (List Char × List Char)
  | '0' :: rest => some (['0'], rest)
  | c :: rest =>
    if c.isDigit then some (c :: rest.takeWhile Char.isDigit, rest.dropWhile Char.isDigit)
    else none
  | [] => none

/-- The digits after a point, if there are any. -/
def fractionDigits : List Char → Option (List Char × List Char)
  | '.' :: rest =>
    let digits := rest.takeWhile Char.isDigit
    if digits.isEmpty then none else some (digits, rest.dropWhile Char.isDigit)
  | _ => none

/-- The exponent after its letter, if it has digits. -/
def exponentPart : List Char → Option (Int × List Char)
  | e :: rest =>
    if e = 'e' ∨ e = 'E' then
      let (negative, rest) := match rest with
        | '-' :: rest => (true, rest)
        | '+' :: rest => (false, rest)
        | rest => (false, rest)
      let digits := rest.takeWhile Char.isDigit
      if digits.isEmpty then none
      else
        let n : Int := digitsValue digits
        some (if negative then -n else n, rest.dropWhile Char.isDigit)
    else none
  | [] => none

/-- A number, of which the sign has been read. -/
def readNumber (digitLimit : Nat) (negative : Bool) (cs : List Char) : Read Value :=
  match wholeDigits cs with
  | none => .error .expectedValue
  | some (whole, rest) =>
    let (fraction, rest, hasPoint) := match fractionDigits rest with
      | some (digits, rest) => (digits, rest, true)
      | none => ([], rest, false)
    let (exponent, rest, hasExponent) := match exponentPart rest with
      | some (e, rest) => (e, rest, true)
      | none => (0, rest, false)
    if hasPoint || hasExponent then
      let x := Binary64.ofDecimal negative (digitsValue (whole ++ fraction))
        (exponent - fraction.length)
      .ok (.float x, rest)
    else if digitLimit < whole.length then .error (.tooManyDigits digitLimit whole.length)
    else
      let n : Int := digitsValue whole
      .ok (.int (if negative then -n else n), rest)

/-- The words that stand for values. -/
def words : List (String × Value) := [
  ("null", .null), ("true", .bool true), ("false", .bool false),
  ("NaN", .float (0.0 / 0.0)), ("Infinity", .float (1.0 / 0.0)),
  ("-Infinity", .float (-1.0 / 0.0))]

/-- A word, if one stands here. -/
def readWord? (cs : List Char) : Option (Value × List Char) :=
  words.findSome? fun (word, v) =>
    if word.toList.isPrefixOf cs then some (v, cs.drop word.length) else none

/-- A text, a word or a number. -/
def readScalar (digitLimit : Nat) (cs : List Char) : Read Value :=
  match cs with
  | '"' :: rest => (readText 0 rest).map fun (cs, rest) => (.text (.ofList cs), rest)
  | _ =>
    match readWord? cs with
    | some found => .ok found
    | none =>
      match cs with
      | '-' :: rest => readNumber digitLimit true rest
      | _ => readNumber digitLimit false cs

/-- The items of a list after its bracket, at most `n` of them. -/
def readItems (readValue : List Char → Read Value) : Nat → List Char → Read (List Value)
  | 0, _ => .error .expectedValue
  | n + 1, cs =>
    match readValue cs with
    | .error e => .error e
    | .ok (item, rest) =>
      match skipSpace rest with
      | ']' :: rest => .ok ([item], rest)
      | ',' :: rest =>
        (readItems readValue n (skipSpace rest)).map fun (items, rest) => (item :: items, rest)
      | _ => .error .expectedComma

/-- An entry of an object: a name, a colon and a value. -/
def readEntry (readValue : List Char → Read Value) (cs : List Char) : Read (String × Value) :=
  match cs with
  | '"' :: rest =>
    match readText 0 rest with
    | .error e => .error e
    | .ok (name, rest) =>
      match skipSpace rest with
      | ':' :: rest =>
        (readValue (skipSpace rest)).map fun (v, rest) => ((.ofList name, v), rest)
      | _ => .error .expectedColon
  | _ => .error .expectedName

/-- The entries of an object after its brace, at most `n` of them, added to `found`. -/
def readEntries (readValue : List Char → Read Value) : Nat → Entries → List Char → Read Entries
  | 0, _, _ => .error .expectedName
  | n + 1, found, cs =>
    match readEntry readValue cs with
    | .error e => .error e
    | .ok ((name, v), rest) =>
      let found := found.insert name v
      match skipSpace rest with
      | '}' :: rest => .ok (found, rest)
      | ',' :: rest => readEntries readValue n found (skipSpace rest)
      | _ => .error .expectedComma

/-- A list after its bracket or an object after its brace; there cannot be more entries than
    characters. -/
def readContainer (readValue : List Char → Read Value) (opening : Char) (cs : List Char) :
    Read Value :=
  let cs := skipSpace cs
  if opening = '[' then
    match cs with
    | ']' :: rest => .ok (.list [], rest)
    | _ => (readItems readValue (cs.length + 1) cs).map fun (items, rest) => (.list items, rest)
  else
    match cs with
    | '}' :: rest => .ok (.record [], rest)
    | _ =>
      (readEntries readValue (cs.length + 1) [] cs).map fun (entries, rest) =>
        (.record entries, rest)

/-- A value in which lists and objects are nested at most `depth` deep. -/
def readValue (digitLimit : Nat) : Nat → List Char → Read Value
  | 0, cs =>
    match cs with
    | '[' :: _ | '{' :: _ => .error .tooDeep
    | _ => readScalar digitLimit cs
  | depth + 1, cs =>
    match cs with
    | '[' :: rest => readContainer (readValue digitLimit depth) '[' rest
    | '{' :: rest => readContainer (readValue digitLimit depth) '{' rest
    | _ => readScalar digitLimit cs

/-- How much a reader takes on. -/
structure Limits where
  /-- The nesting of lists and objects. -/
  depth : Nat
  /-- The digits of a whole number. -/
  digits : Nat

/-- The limits for texts from outside. -/
def usualLimits : Limits := ⟨990, 4300⟩

/-- The value that a whole text stands for. -/
def read (limits : Limits) (text : String) : Except Error Value := do
  let cs := text.toList
  if cs.head? = some (Char.ofNat 0xFEFF) then throw .byteOrderMark
  let (v, rest) ← readValue limits.digits limits.depth (skipSpace cs)
  if (skipSpace rest).isEmpty then return v else throw .extraData

end SourceAtlas.Json
