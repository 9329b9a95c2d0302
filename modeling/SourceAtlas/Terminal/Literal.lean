import SourceAtlas.Decimal.FromText
import SourceAtlas.Text.Word

/-!
# Literal values

The arguments of an action in a tag are written as literal values: numbers, texts, bytes, `None`,
`True`, `False`, an ellipsis, and tuples, sets and dictionaries of such values. A value is read only
to see whether it is one. Main function: `isLiteral`.
-/

namespace SourceAtlas.Terminal.Literal

/-- What a value may be a part of. -/
inductive Kind where
  /-- A real number without sign. -/
  | real
  /-- An imaginary number without sign. -/
  | imaginary
  /-- A real number with a sign. -/
  | signed
  /-- Another value that may be a key or an element of a set. -/
  | plain
  /-- A value that may be neither: a set, a dictionary, or a tuple that holds one. -/
  | loose
  deriving DecidableEq, Repr

/-- Reads something at the start of a text, and gives it back with the rest of the text. -/
abbrev Reader (α : Type) := List Char → Option (α × List Char)

/-- The text without the blanks, line breaks and remarks in front. `isRemark` tells that a remark
    has begun. -/
def skipBlanksFrom : (isRemark : Bool) → List Char → List Char
  | _, [] => []
  | true, c :: rest => skipBlanksFrom (c ≠ '\n') rest
  | false, c :: rest =>
    if c = ' ' || c = '\t' || c = '\n' || c = '\r' || c = '\x0c' then skipBlanksFrom false rest
    else if c = '#' then skipBlanksFrom true rest
    else c :: rest

/-- The text without the blanks, line breaks and remarks in front. -/
def skipBlanks (cs : List Char) : List Char := skipBlanksFrom false cs

/-! ## Numbers -/

/-- Digits of a class, which may have single low lines between them: how many characters they take.
    `isAfterDigit` tells that a low line may come next. -/
def digitRunFrom (isDigit : Char → Bool) : (isAfterDigit : Bool) → List Char → Nat
  | _, [] => 0
  | isAfterDigit, c :: rest =>
    if isDigit c then digitRunFrom isDigit true rest + 1
    else if c = '_' && isAfterDigit && rest.head?.any isDigit then
      digitRunFrom isDigit false rest + 1
    else 0

/-- The digits at the start of a text, and the rest. -/
def digitRun (isDigit : Char → Bool) (cs : List Char) : List Char × List Char :=
  cs.splitAt (digitRunFrom isDigit false cs)

/-- The text after an exponent, if there is one. -/
def afterExponent? : List Char → Option (List Char)
  | e :: rest =>
    if e = 'e' || e = 'E' then
      let unsigned := match rest with
        | c :: more => if c = '+' || c = '-' then more else rest
        | [] => []
      let (digits, after) := digitRun Char.isDigit unsigned
      if digits.isEmpty then none else some after
    else none
  | [] => none

/-- Whole digits may start with a zero only if they are all zeros. -/
def isTidyWhole (digits : List Char) : Bool :=
  let digits := digits.filter (· ≠ '_')
  (digits.head? ≠ some '0' || digits.all (· = '0')) && digits.length ≤ wholeDigitLimit

/-- Reads a decimal number. -/
def decimal? : Reader Kind := fun cs =>
  let (whole, rest) := digitRun Char.isDigit cs
  let (hasPoint, fraction, rest) := match rest with
    | '.' :: more =>
      let (fraction, more) := digitRun Char.isDigit more
      (true, fraction, more)
    | _ => (false, [], rest)
  if whole.isEmpty && fraction.isEmpty then none
  else
    let exponent := afterExponent? rest
    let rest := exponent.getD rest
    match rest with
    | c :: more =>
      if c = 'j' || c = 'J' then some (.imaginary, more)
      else if hasPoint || exponent.isSome || isTidyWhole whole then some (.real, rest)
      else none
    | [] => if hasPoint || exponent.isSome || isTidyWhole whole then some (.real, []) else none

/-- The digits of the base that a letter after a zero stands for. -/
def baseDigits? (c : Char) : Option (Char → Bool) :=
  match c.toLower with
  | 'x' => some fun d => d.isDigit || ('a' ≤ d.toLower && d.toLower ≤ 'f')
  | 'o' => some fun d => '0' ≤ d && d ≤ '7'
  | 'b' => some fun d => d = '0' || d = '1'
  | _ => none

/-- Reads a number. -/
def number? : Reader Kind := fun cs =>
  match cs with
  | '0' :: c :: rest =>
    match baseDigits? c with
    | some isDigit =>
      let rest := if rest.head? = some '_' then rest.drop 1 else rest
      let (digits, after) := digitRun isDigit rest
      if digits.isEmpty then none else some (.real, after)
    | none => decimal? cs
  | _ => decimal? cs

/-! ## Texts -/

/-- How a text is written. -/
structure Quoting where
  quote : Char
  /-- Three quotes stand at either end. -/
  isLong : Bool
  isBytes : Bool
  /-- Backslashes have no meaning but for keeping a quote. -/
  isRaw : Bool

/-- The text starts with so many hexadecimal digits. -/
def startsHex (count : Nat) (cs : List Char) : Bool :=
  (cs.take count).length = count
    && (cs.take count).all fun d => d.isDigit || ('a' ≤ d.toLower && d.toLower ≤ 'f')

/-- How many characters the rest of an escape takes, after its backslash. -/
def escapeLength? (q : Quoting) : List Char → Option Nat
  | [] => none
  | c :: rest =>
    if q.isRaw then some 1
    else if c = 'x' then if startsHex 2 rest then some 3 else none
    else if q.isBytes then some 1
    else if c = 'u' then if startsHex 4 rest then some 5 else none
    else if c = 'U' then
      let isInRange := ["000".toList, "0010".toList].any (·.isPrefixOf rest)
      if startsHex 8 rest && isInRange then some 9 else none
    else if c = 'N' then
      let name := rest.takeWhile (· ≠ '\x7d')
      if rest.head? = some '\x7b' && 1 < name.length && name.length < rest.length then
        some (name.length + 2)
      else none
    else some 1

/-- The rest after the end of a text. `skip` characters belong to an escape that has been read. -/
def afterText? (q : Quoting) : (skip : Nat) → List Char → Option (List Char)
  | _, [] => none
  | skip, c :: rest =>
    if q.isBytes && 128 ≤ c.toNat then none
    else match skip with
      | skip + 1 => afterText? q skip rest
      | 0 =>
        if c = q.quote && (!q.isLong || rest.take 2 = [c, c]) then
          some (if q.isLong then rest.drop 2 else rest)
        else if c = '\n' && !q.isLong then none
        else if c = '\\' then
          match escapeLength? q rest with
          | some n => afterText? q n rest
          | none => none
        else afterText? q 0 rest

/-- The letters in front of a quote: whether they write bytes, and whether backslashes stay. -/
def quotingOf? (letters : String) : Option (Bool × Bool) :=
  [("", (false, false)), ("u", (false, false)), ("r", (false, true)), ("b", (true, false)),
    ("br", (true, true)), ("rb", (true, true))].lookup letters

/-- Reads a text or bytes, and tells whether it is bytes. -/
def text? : Reader Bool := fun cs =>
  let letters := cs.takeWhile Char.isAlpha
  match quotingOf? (.ofList (letters.map Char.toLower)), cs.drop letters.length with
  | some (isBytes, isRaw), c :: rest =>
    if c = '\'' || c = '"' then
      let isLong := rest.take 2 = [c, c]
      let q : Quoting := { quote := c, isLong, isBytes, isRaw }
      (afterText? q 0 (if isLong then rest.drop 2 else rest)).map (isBytes, ·)
    else none
  | _, _ => none

/-- The rest after texts side by side, which must all be bytes or all be none. -/
def afterTexts? (isBytes : Bool) : (fuel : Nat) → List Char → Option (List Char)
  | 0, cs => some cs
  | fuel + 1, cs =>
    match text? (skipBlanks cs) with
    | some (b, rest) => if b = isBytes then afterTexts? isBytes fuel rest else none
    | none => some cs

/-! ## Values -/

/-- A value, or two with a colon between them. -/
structure Entry where
  kind : Kind
  isPair : Bool

/-- Reads an entry, given a reader of values. -/
def entry? (value? : Reader Kind) : Reader Entry := fun cs =>
  match value? cs with
  | none => none
  | some (kind, rest) =>
    match skipBlanks rest with
    | ':' :: after => (value? after).map fun (_, rest) => ({ kind, isPair := true }, rest)
    | rest => some ({ kind, isPair := false }, rest)

/-- Entries up to an end, and whether there is a comma after the last one. -/
structure Entries where
  list : List Entry := []
  hasComma : Bool := false

/-- Reads entries with commas between them up to the end, which stays. No more than `fuel` of them
    are read, so that the length of the text is enough. -/
def entries? (value? : Reader Kind) (isEnd : List Char → Bool) : (fuel : Nat) → Reader Entries
  | 0, _ => none
  | fuel + 1, cs =>
    let cs := skipBlanks cs
    if isEnd cs then some ({}, cs)
    else match entry? value? cs with
      | none => none
      | some (e, rest) =>
        match skipBlanks rest with
        | ',' :: rest =>
          (entries? value? isEnd fuel rest).map fun (es, rest) =>
            ({ list := e :: es.list, hasComma := es.list.isEmpty || es.hasComma }, rest)
        | rest => if isEnd rest then some ({ list := [e] }, rest) else none

/-- The value that entries make in parentheses, or without any brackets: one of them is itself, and
    several ones are a tuple. -/
def Entries.tuple? (es : Entries) : Option Kind :=
  if es.list.any (·.isPair) then none
  else match es.list, es.hasComma with
    | [e], false => some e.kind
    | list, _ => some (if list.any (·.kind = .loose) then .loose else .plain)

/-- The value that entries make in braces: a set or a dictionary. -/
def Entries.collection? (es : Entries) : Option Kind :=
  if es.list.any (·.kind = .loose) then none
  else if es.list.all (·.isPair) || es.list.all (!·.isPair) then some .loose
  else none

/-- Reads entries and the bracket after them. -/
def bracketed? (value? : Reader Kind) (closing : Char) : Reader Entries := fun cs =>
  (entries? value? (·.head? = some closing) (cs.length + 1) cs).map fun (es, rest) =>
    (es, rest.drop 1)

/-- Reads a word: a constant, or the empty set. -/
def word? : Reader Kind := fun cs =>
  let name := cs.takeWhile Text.isWord
  let rest := cs.drop name.length
  let word := String.ofList name
  if word = "None" || word = "True" || word = "False" then some (.plain, rest)
  else if word = "set" then
    match skipBlanks rest with
    | '(' :: rest =>
      match skipBlanks rest with
      | ')' :: rest => some (.loose, rest)
      | _ => none
    | _ => none
  else none

/-- Reads a value without sign, given a reader of the values in brackets. -/
def unsigned? (value? : Reader Kind) : Reader Kind := fun cs =>
  match cs with
  | '(' :: rest =>
    (bracketed? value? ')' rest).bind fun (es, rest) => es.tuple?.map (·, rest)
  | '\x7b' :: rest =>
    (bracketed? value? '\x7d' rest).bind fun (es, rest) => es.collection?.map (·, rest)
  | '.' :: '.' :: '.' :: rest => some (.plain, rest)
  | _ =>
    match text? cs with
    | some (isBytes, rest) => (afterTexts? isBytes rest.length rest).map (.plain, ·)
    | none => (number? cs).or (word? cs)

/-- A plus or a minus sign. -/
def isSign (c : Char) : Bool := c = '+' || c = '-'

/-- Reads a value with a sign in front of it if there is one. Only numbers have signs. -/
def operand? (value? : Reader Kind) : Reader Kind := fun cs =>
  match skipBlanks cs with
  | c :: rest =>
    if isSign c then
      match unsigned? value? (skipBlanks rest) with
      | some (.real, rest) => some (.signed, rest)
      | some (.imaginary, rest) => some (.plain, rest)
      | _ => none
    else unsigned? value? (c :: rest)
  | [] => none

/-- Reads a value, given a reader of the values in brackets. A real number and an imaginary one make
    a sum. -/
def valueWith? (value? : Reader Kind) : Reader Kind := fun cs =>
  match operand? value? cs with
  | none => none
  | some (kind, rest) =>
    match skipBlanks rest with
    | c :: after =>
      if isSign c && (kind = .real || kind = .signed) then
        match unsigned? value? (skipBlanks after) with
        | some (.imaginary, rest) => some (.plain, rest)
        | _ => none
      else some (kind, rest)
    | [] => some (kind, rest)

/-- Reads a value with brackets up to some depth. -/
def value? : (depth : Nat) → Reader Kind
  | 0 => valueWith? fun _ => none
  | depth + 1 => valueWith? (value? depth)

/-- How deep brackets may stand in each other. -/
def depthLimit : Nat := 200

/-- The text is a literal value, or several ones with commas between them. -/
def isLiteral (cs : List Char) : Bool :=
  match entries? (value? depthLimit) (·.isEmpty) (cs.length + 1) cs with
  | some (es, _) => !es.list.isEmpty && es.tuple?.isSome
  | none => false

end SourceAtlas.Terminal.Literal
