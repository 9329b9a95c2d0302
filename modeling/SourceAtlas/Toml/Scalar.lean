import SourceAtlas.Decimal.FromText
import SourceAtlas.Json.Reader
import SourceAtlas.Value.Number
import SourceAtlas.Text.Case
import SourceAtlas.Toml.Basic

/-!
# Scalars of TOML

Strings, numbers, truth values, dates and times. Main function: `readScalar`, which also says of
which type a value is, because the items of a list must be of one type.
-/

namespace SourceAtlas.Toml

/-- The types of values. -/
inductive ValueType where
  | bool
  | string
  | int
  | float
  | time
  | date
  | array
  | inlineTable
  deriving DecidableEq, Repr

/-! ## Numbers -/

/-- The base that the beginning of a number announces, and the digits after it. -/
def basePrefix : List Char → Option (Nat × List Char)
  | '0' :: b :: rest =>
    if b = 'x' ∨ b = 'X' then some (16, rest)
    else if b = 'o' ∨ b = 'O' then some (8, rest)
    else if b = 'b' ∨ b = 'B' then some (2, rest)
    else none
  | _ => none

/-- The value of a digit below a base. -/
def digitBelow? (base : Nat) (c : Char) : Option Nat :=
  (Json.hexValue? c).filter (· < base)

/-- The value of digits in a base. -/
def valueIn? (base : Nat) (digits : List Char) : Option Nat :=
  if digits.isEmpty then none
  else digits.foldlM (fun n c => (digitBelow? base c).map (n * base + ·)) 0

/-- A whole number without low lines whose base is known from its beginning. In base ten there is no
    zero in front, except before other zeros, and the number of digits is limited. -/
def prefixedNumber? (cs : List Char) : Option Int :=
  let (negative, digits) := takeSign (Text.plainDigits cs)
  let size? := match basePrefix digits with
    | some (base, digits) => valueIn? base digits
    | none =>
      if !isDigits digits || wholeDigitLimit < digits.length
          || (digits.head? = some '0' && !digits.all (· = '0')) then none
      else some (digitsToNat digits)
  size?.map fun n => if negative then -(n : Int) else n

/-- A mark occurs in a text. -/
def hasMark (mark : String) (cs : List Char) : Bool :=
  (Text.breakOn mark.toList cs).isSome

/-- A number is tidy: no low line at an end or next to a point, no two of them in a row, and no zero
    in front, except before a point or in the mark of a base. After a sign, only the point is
    looked for. -/
def isTidyNumber (cs : List Char) : Bool :=
  let cs := Text.strip cs
  if cs.isEmpty || cs.head? = some '_' || cs.getLast? = some '_' || hasMark "_." cs
      || hasMark "._" cs then false
  else match cs with
    | [_] => true
    | '0' :: c :: _ => (c = '.' || c = 'o' || c = 'b' || c = 'x') && !hasMark "__" cs
    | s :: rest =>
      if s = '+' || s = '-' then
        match rest with
        | '0' :: c :: _ => c = '.' && !hasMark "__" rest
        | rest => !hasMark "__" rest
      else !hasMark "__" cs
    | [] => false

/-- A number, of which the sign has been read. -/
def unsignedNumber (cs : List Char) : Except Error (Value × ValueType) :=
  let cs := cs.filter (· ≠ '_')
  let hasPoint := cs.contains '.'
  let hasExponent := !cs.contains 'x' && (cs.contains 'e' || cs.contains 'E')
  let word := String.ofList (cs.map Char.toLower)
  if hasPoint && (cs.dropWhile (· ≠ '.')).length = 1 then .error .malformed
  else if hasPoint || hasExponent then
    match cs.head? with
    | some c =>
      if c.isDigit then
        match anyFloat? cs with
        | some x => .ok (.float x, .float)
        | none => .error .malformed
      else .error .malformed
    | none => .error .malformed
  else if word = "inf" ∨ word = "nan" then
    .ok (.float (if word = "inf" then 1.0 / 0.0 else 0.0 / 0.0), .float)
  else
    match prefixedNumber? cs with
    | some i => .ok (.int i, .int)
    | none => .error .malformed

/-- The negative of a number. Zero has no sign. -/
def negated : Value → Value
  | .int i => .int (-i)
  | .float x => .float (0.0 - x)
  | v => v

/-- A number. -/
def readNumber (cs : List Char) : Except Error (Value × ValueType) :=
  match cs with
  | '-' :: rest => (unsignedNumber rest).map fun (v, t) => (negated v, t)
  | '+' :: rest => unsignedNumber rest
  | _ => unsignedNumber cs

/-! ## Dates and times -/

/-- A part of a text. -/
def slice (first last : Nat) (cs : List Char) : List Char :=
  (cs.take last).drop first

/-- The hour, minute and second at the beginning of a text, and the digits of a fraction of at
    least three digits. -/
def timeParts? : List Char → Option (Nat × Nat × Nat)
  | a :: b :: ':' :: c :: d :: ':' :: e :: f :: _ =>
    if [a, b, c, d, e, f].all Char.isDigit then
      some (digitsToNat [a, b], digitsToNat [c, d], digitsToNat [e, f])
    else none
  | _ => none

/-- An hour, minute and second of a day. -/
def isTimeOfDay (hour minute second : Int) : Bool :=
  0 ≤ hour && hour < 24 && 0 ≤ minute && minute < 60 && 0 ≤ second && second < 60

/-- The number of days of a month. -/
def daysOfMonth (year month : Int) : Int :=
  if month = 2 then
    if (year % 4 = 0 && year % 100 ≠ 0) || year % 400 = 0 then 29 else 28
  else if month = 4 ∨ month = 6 ∨ month = 9 ∨ month = 11 then 30
  else 31

/-- A year, month and day of the calendar. -/
def isDay (year month day : Int) : Bool :=
  1 ≤ year && year ≤ 9999 && 1 ≤ month && month ≤ 12 && 1 ≤ day && day ≤ daysOfMonth year month

/-- The offset from universal time at the end of a date, if there is one, can be read: the letter
    `Z`, or a sign, hours and minutes. -/
def isOffset (cs : List Char) : Bool :=
  cs = ['Z'] || ((anyWhole? (slice 1 3 cs)).isSome && (anyWhole? (slice 4 6 cs)).isSome)

/-- The digits of a fraction of a second, and the offset after them. -/
def fractionParts (cs : List Char) : List Char × Option (List Char) :=
  if cs.getLast? = some 'Z' ∨ cs.getLast? = some 'z' then (cs.dropLast, some ['Z'])
  else
    let sign := if cs.contains '+' then '+' else '-'
    match cs.dropWhile (· ≠ sign) with
    | [] => (cs, none)
    | offset => (cs.takeWhile (· ≠ sign), some offset)

/-- The millionths of a second that a fraction writes, rounded down. More digits than six are scaled
    by a floating-point number. -/
def millionths (digits : List Char) (n : Nat) : Except Error Nat :=
  if digits.length ≤ 6 then .ok (n * pow10 (6 - digits.length))
  else
    let scale := Binary64.ofDecimal false 1 (6 - digits.length : Int)
    match Binary64.ofInt? n with
    | none => .error .tooLarge
    | some x => .ok (wholePart (x * scale))
where
  /-- The whole part of a number that is not negative. -/
  wholePart (x : Float) : Nat :=
    match Binary64.ofFloat x with
    | .finite _ mantissa exponent =>
      let (num, den) := Digits.fraction mantissa exponent
      num / den
    | _ => 0

/-- The millionths of a second at the end of a date with a time of day. A fraction that cannot be
    read, or with an offset that cannot, counts as none, and one below zero as too many. -/
def dateMillionths (cs : List Char) : Except Error Nat :=
  if cs.length ≤ 19 || cs[19]? ≠ some '.' then .ok 0
  else
    let (digits, offset) := fractionParts (cs.drop 20)
    if !offset.all isOffset then .ok 0
    else match anyWhole? digits with
      | none => .ok 0
      | some n => (millionths digits n.natAbs).map fun m => if n < 0 && 0 < m then pow10 6 else m

/-- The text writes a date, or a date with a time of day. -/
def isDate (cs : List Char) : Except Error Bool :=
  match dateMillionths cs with
  | .error e => .error e
  | .ok microseconds =>
    let part (i j : Nat) : Option Int := anyWhole? (slice i j cs)
    .ok ((cs.drop 1).contains '-' &&
      match part 0 4, part 5 7, part 8 10 with
      | some year, some month, some day =>
        isDay year month day &&
          (cs.length = 10 ||
            match part 11 13, part 14 16, part 17 19 with
            | some hour, some minute, some second =>
              isTimeOfDay hour minute second && microseconds < pow10 6
            | _, _, _ => false)
      | _, _, _ => false)

/-! ## Strings -/

/-- The character that an escape of one letter stands for. -/
def escaped? (c : Char) : Option Char :=
  match c with
  | '0' => some '\x00'
  | 'b' => some '\x08'
  | 'f' => some '\x0c'
  | 'n' => some '\n'
  | 'r' => some '\r'
  | 't' => some '\t'
  | '"' => some '"'
  | _ => none

/-- Refuses escapes of unknown letters. The pieces are what follows each backslash. -/
def checkEscapes : (escaped : Bool) → List (List Char) → Except Error Unit
  | _, [] => .ok ()
  | escaped, [] :: rest => checkEscapes (!escaped) rest
  | escaped, (c :: _) :: rest =>
    if (escaped? c).isNone && c ≠ 'u' && c ≠ 'U' && !escaped then .error .malformed
    else checkEscapes false rest

/-- The code point that digits in base sixteen write, if it is a character. Digits that start with
    a small `d` must not write half of a surrogate pair. -/
def codePoint (digits : List Char) : Except Error Char :=
  match digits.map Char.toLower with
  | [] => .error .outOfRange
  | d :: rest =>
    match valueIn? 16 (d :: rest) with
    | none => .error .malformed
    | some n =>
      match d, rest with
      | 'd', [] => .error .outOfRange
      | 'd', c :: _ =>
        if '0' ≤ c ∧ c ≤ '7' then ofNumber n else .error .malformed
      | _, _ => ofNumber n
where
  /-- The character of a code point that is small enough. -/
  ofNumber (n : Nat) : Except Error Char :=
    if n < 0x110000 then .ok (Text.ofPoint n)
    else if n < pow2 31 then .error .malformed
    else .error .tooLarge

/-- Replaces the escapes of code points, given what stands before and after each of them. An escape
    whose backslash is escaped stays, if the one before it has not been replaced. -/
def unicodeEscapes (mark : List Char) (width : Nat) :
    (skip : Bool) → (before : List Char) → List (List Char) → Except Error (List Char)
  | _, before, [] => .ok before
  | true, before, piece :: rest =>
    unicodeEscapes mark width (endsEscaped piece) (before ++ mark ++ piece) rest
  | false, before, piece :: rest =>
    match codePoint (piece.take width) with
    | .error e => .error e
    | .ok c => unicodeEscapes mark width false (before ++ c :: piece.drop width) rest

/-- Replaces the escapes of code points that start with a backslash and a letter. -/
def replaceUnicode (letter : Char) (width : Nat) (cs : List Char) : Except Error (List Char) :=
  let mark := ['\\', letter]
  match Text.splitMark mark cs with
  | [] => .ok []
  | before :: pieces => unicodeEscapes mark width (endsEscaped before) before pieces

/-- Replaces the escapes of one letter. -/
def unescape : List Char → Except Error (List Char)
  | '\\' :: c :: rest =>
    match escaped? c with
    | some d => (unescape rest).map (d :: ·)
    | none =>
      if c = '\\' then (unescape rest).map ('\\' :: ·)
      else if c = 'u' ∨ c = 'U' then (unescape rest).map fun cs => '\\' :: c :: cs
      else .error .malformed
  | c :: rest => (unescape rest).map (c :: ·)
  | [] => .ok []

/-- Where a string ends. -/
structure Closing where
  closed : Bool := false
  /-- The quotes in a row inside a string of several lines. -/
  quotes : Nat := 0

/-- Refuses a string that goes on after its closing quote. The pieces are what stands between the
    quotes. -/
def checkClosing (triple : Bool) : Closing → List (List Char) → Except Error Unit
  | _, [] => .ok ()
  | s, piece :: rest =>
    if piece.isEmpty then
      checkClosing triple
        (if triple then { s with quotes := s.quotes + 1 } else { s with closed := true }) rest
    else if endsEscaped piece then checkClosing triple s rest
    else if s.closed then .error .malformed
    else if !triple || 1 < s.quotes then checkClosing triple { s with closed := true } rest
    else checkClosing triple { s with quotes := 0 } rest

/-- The content of a string in double quotes, with the quotes. -/
def resolveEscapes (cs : List Char) : Except Error (List Char) := do
  checkEscapes false ((Text.splitAll (· = '\\') cs).drop 1)
  unescape (← replaceUnicode 'U' 8 (← replaceUnicode 'u' 4 cs))

/-- Takes the quotes off a string. -/
def unquote (quote : Char) (cs : List Char) : List Char :=
  match cs with
  | _ :: b :: rest =>
    if b = quote && (rest.isEmpty || rest.head? = some quote) then
      inner (((cs.drop 2).dropLast).dropLast)
    else inner cs
  | _ => inner cs

/-- A string in quotes. -/
def readString (quote : Char) (cs : List Char) : Except Error String := do
  let pieces := Text.splitAll (· = quote) (cs.drop 1)
  match pieces with
  | [] :: [] :: rest => checkClosing true {} rest
  | pieces => checkClosing false {} pieces
  let cs ← if quote = '"' then resolveEscapes cs else pure cs
  return .ofList (unquote quote cs)

/-- A value that is neither a list nor an inline table. A number has to be tidy. -/
def readScalar (isTidy : Bool) (cs : List Char) : Except Error (Value × ValueType) :=
  match cs with
  | [] => .error .malformed
  | c :: _ =>
    let word := String.ofList cs
    let lowered := String.ofList (Text.lower cs)
    if word = "true" then .ok (.bool true, .bool)
    else if word = "false" then .ok (.bool false, .bool)
    else if lowered = "true" ∨ lowered = "false" then .error .malformed
    else if isQuote c then (readString c cs).map fun s => (.text s, .string)
    else
      match timeParts? cs with
      | some (hour, minute, second) =>
        if isTimeOfDay hour minute second then .ok (.moment word, .time) else .error .malformed
      | none =>
        match isDate cs with
        | .error e => .error e
        | .ok true => .ok (.moment word, .date)
        | .ok false => if isTidy then readNumber cs else .error .malformed

end SourceAtlas.Toml
