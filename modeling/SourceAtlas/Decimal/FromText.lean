import SourceAtlas.Decimal.Binary64
import SourceAtlas.Text.Cut
import SourceAtlas.Text.Digit

/-!
# Numbers from texts

Numbers that people and programs write into text fields. `floatOfChars?` reads a decimal number
with an optional point and exponent, or a word for infinity or for no number at all;
`wholeOfChars?` reads a whole number and forgives a plus sign, zeros in front, a fraction of zeros
and low lines; `anyWhole?` and `anyFloat?` read the digits of all scripts.
-/

namespace SourceAtlas

/-- The value of a list of decimal digits. -/
def digitsToNat (digits : List Char) : Nat :=
  digits.foldl (fun n c => n * 10 + (c.toNat - 48)) 0

/-- Takes the sign off a number: whether it is a minus, and the rest. -/
def takeSign : List Char → Bool × List Char
  | '-' :: rest => (true, rest)
  | '+' :: rest => (false, rest)
  | cs => (false, cs)

/-- A text that is nothing but decimal digits, at least one of them. -/
def isDigits (cs : List Char) : Bool :=
  !cs.isEmpty && cs.all Char.isDigit

/-- The exponent at the end of a number, zero if there is none. -/
def exponentOf? : List Char → Option Int
  | [] => some 0
  | e :: rest =>
    if e = 'e' ∨ e = 'E' then
      let (negative, digits) := takeSign rest
      if isDigits digits then
        some (if negative then -(digitsToNat digits : Int) else digitsToNat digits)
      else none
    else none

/-- A decimal number without sign. -/
def decimalOf? (negative : Bool) (cs : List Char) : Option Float :=
  let whole := cs.takeWhile Char.isDigit
  let rest := cs.dropWhile Char.isDigit
  let (fraction, rest) := match rest with
    | '.' :: rest => (rest.takeWhile Char.isDigit, rest.dropWhile Char.isDigit)
    | rest => ([], rest)
  if whole.isEmpty && fraction.isEmpty then none
  else
    (exponentOf? rest).map fun e =>
      Binary64.ofDecimal negative (digitsToNat (whole ++ fraction)) (e - fraction.length)

/-- The word for a number that is not finite. -/
def nonFiniteOf? (negative : Bool) (cs : List Char) : Option Float :=
  match String.ofList (cs.map Char.toLower) with
  | "inf" | "infinity" => some (if negative then -1.0 / 0.0 else 1.0 / 0.0)
  | "nan" => some (0.0 / 0.0)
  | _ => none

/-- A decimal number, or a word for one that is not finite, with an optional sign. -/
def floatOfChars? (cs : List Char) : Option Float :=
  let (negative, rest) := takeSign cs
  nonFiniteOf? negative rest <|> decimalOf? negative rest

/-- The text without its low lines, if each of them stands alone and none at an end. -/
def dropLowLines? (cs : List Char) : Option (List Char) :=
  if cs.head? = some '_' ∨ cs.getLast? = some '_' ∨ (Text.breakOn ['_', '_'] cs).isSome then none
  else some (cs.filter (· ≠ '_'))

/-- What is left of a number after its zeros and low lines in front, of which `last` is the last
    one read. One digit stays. -/
def afterZeros? (last : Char) : List Char → Option (List Char)
  | [] => some [last]
  | c :: rest =>
    if c = '0' ∨ c = '_' then afterZeros? c rest
    else if c.isDigit ∨ c = '-' then some (c :: rest)
    else if c = '.' then some (last :: c :: rest)
    else none

/-- A number without the zeros in front; it has to start with a digit or a minus sign. A minus sign
    may also follow the zeros, while zeros that follow such a minus sign stay. -/
def dropZeros? : List Char → Option (List Char)
  | [] => none
  | c :: rest =>
    if c = '0' then afterZeros? c rest
    else if c.isDigit ∨ c = '-' then some (c :: rest)
    else none

/-- A number without its fraction, if that is one zero or several. -/
def dropZeroFraction (cs : List Char) : List Char :=
  match Text.splitLast '.' cs with
  | some (whole, fraction) =>
    if !fraction.isEmpty && fraction.all (· = '0') then whole else cs
  | none => cs

/-- The most digits that a whole number in a text may have. -/
def wholeDigitLimit : Nat := 4300

/-- A whole number in its shortest form: digits alone, after a minus sign if it is negative, and no
    zero in front of others. The minus sign counts as one of the characters that are limited. -/
def plainWholeOf? (cs : List Char) : Option Int :=
  let (negative, digits) := match cs with
    | '-' :: digits => (true, digits)
    | digits => (false, digits)
  if isDigits digits ∧ (digits.head? = some '0' → digits.length = 1)
      ∧ cs.length ≤ wholeDigitLimit then
    some (if negative then -(digitsToNat digits : Int) else digitsToNat digits)
  else none

/-- A whole number that need not have its shortest form. What is forgiven is forgiven behind a sign,
    if there is one. -/
def wholeOfChars? (cs : List Char) : Option Int := do
  let (negative, cs) ← match cs with
    | '-' :: rest => some (true, rest)
    | '+' :: '-' :: _ => none
    | '+' :: rest => some (false, rest)
    | cs => some (false, cs)
  let cs ← dropZeros? cs
  let cs ← dropLowLines? (dropZeroFraction cs)
  plainWholeOf? (if negative then '-' :: cs else cs)

/-- The text without its low lines, if each of them stands between two digits. `last` is the
    character before the text. -/
def dropDigitGaps? (last : Char) : List Char → Option (List Char)
  | [] => some []
  | c :: rest =>
    if c = '_' then
      if last.isDigit && rest.head?.any Char.isDigit then dropDigitGaps? c rest else none
    else (dropDigitGaps? c rest).map (c :: ·)

/-- A whole number in digits of any script, with blanks around it and low lines between digits. -/
def anyWhole? (cs : List Char) : Option Int :=
  let (negative, cs) := takeSign (Text.plainDigits cs)
  match dropDigitGaps? ' ' cs with
  | some digits =>
    if isDigits digits && digits.length ≤ wholeDigitLimit then
      let n : Int := digitsToNat digits
      some (if negative then -n else n)
    else none
  | none => none

/-- A floating-point number in digits of any script, with blanks around it and low lines between
    digits. -/
def anyFloat? (cs : List Char) : Option Float :=
  (dropDigitGaps? ' ' (Text.plainDigits cs)).bind floatOfChars?

/-- A text of nothing but ASCII characters, as a list of them. -/
def asciiChars? (s : String) : Option (List Char) :=
  if s.toList.all (·.toNat < 128) then some s.toList else none

/-- A whole number in ASCII digits, with blanks around it and low lines between digits. -/
def asciiWhole? (s : String) : Option Int := (asciiChars? s).bind anyWhole?

/-- A floating-point number in ASCII digits, with blanks around it and low lines between digits. -/
def asciiFloat? (s : String) : Option Float := (asciiChars? s).bind anyFloat?

/-- The whole number that a floating-point number is, if its size is below `2 ^ 63`. -/
def wholeOfFloat? (x : Float) : Option Int :=
  match Binary64.ofFloat x with
  | .finite negative mantissa exponent =>
    let scale := pow2 (-exponent).toNat
    let size := mantissa * pow2 exponent.toNat / scale
    if mantissa * pow2 exponent.toNat % scale = 0 ∧ size < pow2 63 then
      some (if negative then -(size : Int) else size)
    else none
  | _ => none

end SourceAtlas
