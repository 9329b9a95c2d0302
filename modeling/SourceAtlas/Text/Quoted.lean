import SourceAtlas.Decimal.Written
import SourceAtlas.Text.CodePoint
import SourceAtlas.Text.UnprintableTable

/-!
# Quoted texts

A text in quotes, such that every character can be told from the outside: the backslash and the
quote are escaped, and unprintable characters are written by their code points. Single quotes are
preferred; double quotes are used for a text that holds single but no double ones.
-/

namespace SourceAtlas.Text

/-- A character that shows on paper; of the separators, only the space. -/
def isPrintable (n : Nat) : Bool :=
  if n < 128 then 32 ≤ n && n < 127
  else !isHalf n && !inCutRanges unprintableRangesLow unprintableRangesMid unprintableRangesHigh n

/-- A number in base sixteen with small letters, on at least `width` places. -/
def hexChars (width n : Nat) : List Char :=
  let digits := Nat.toDigits 16 n
  List.replicate (width - digits.length) '0' ++ digits

/-- A code point inside quotes. -/
def escapePoint (quote : Char) (n : Nat) : List Char :=
  if n = quote.toNat ∨ n = 92 then ['\\', Char.ofNat n]
  else if n = 9 then ['\\', 't']
  else if n = 10 then ['\\', 'n']
  else if n = 13 then ['\\', 'r']
  else if isPrintable n then [Char.ofNat n]
  else if n < 0x100 then '\\' :: 'x' :: hexChars 2 n
  else if n < 0x10000 then '\\' :: 'u' :: hexChars 4 n
  else '\\' :: 'U' :: hexChars 8 n

/-- The quote that stands around a text. -/
def quoteFor (points : List Nat) : Char :=
  if points.contains 39 && !points.contains 34 then '"' else '\''

/-- Code points in quotes. -/
def quotedPoints (points : List Nat) : List Char :=
  let quote := quoteFor points
  quote :: points.flatMap (escapePoint quote) ++ [quote]

/-- A text in quotes. -/
def quoted (s : String) : String :=
  .ofList (quotedPoints (points s))

/-- Bytes in quotes: all but the printable ASCII characters are written by their numbers. -/
def quotedBytes (data : List UInt8) : String :=
  let points := data.map UInt8.toNat
  let quote := quoteFor points
  let escape (n : Nat) : List Char :=
    if n < 127 then escapePoint quote n else '\\' :: 'x' :: hexChars 2 n
  .ofList (quote :: points.flatMap escape ++ [quote])

end SourceAtlas.Text
