import SourceAtlas.Decimal.Digits

/-!
# Written numbers

How numbers appear in reports. A `NumberStyle` says where positional notation ends and whether a
whole number keeps a point; two styles are in use, `plainStyle` for full precision and
`briefStyle` for six digits.
-/

namespace SourceAtlas

/-- The digits of a natural number in base ten. -/
def decimalChars (n : Nat) : List Char :=
  Nat.toDigits 10 n

/-- A natural number in base ten. -/
def decimalText (n : Nat) : String :=
  .ofList (decimalChars n)

/-- A whole number in base ten, with a hyphen in front of a negative one. -/
def integerText (i : Int) : String :=
  if i < 0 then "-" ++ decimalText i.natAbs else decimalText i.natAbs

/-- The choices in the notation of a floating-point number. -/
structure NumberStyle where
  /-- A number is positional if its first digit stands for a power of ten below this one, and for
      `10 ^ -4` at least. -/
  positionalBelow : Int
  /-- Positional whole numbers end in a point and a zero. -/
  keepPoint : Bool

/-- Full precision: positional below `10 ^ 16`, and always with a point. -/
def plainStyle : NumberStyle := ⟨16, true⟩

/-- Six digits: positional below `10 ^ 6`, and no point without need. -/
def briefStyle : NumberStyle := ⟨6, false⟩

/-- The digits in positional notation, where `point` of them stand before the point. -/
def positional (keepPoint : Bool) (digits : List Char) (point : Int) : List Char :=
  if point ≤ 0 then
    '0' :: '.' :: List.replicate (-point).toNat '0' ++ digits
  else if digits.length ≤ point then
    digits ++ List.replicate (point.toNat - digits.length) '0'
      ++ (if keepPoint then ['.', '0'] else [])
  else
    digits.take point.toNat ++ '.' :: digits.drop point.toNat

/-- An exponent with its sign and at least two digits. -/
def exponentChars (e : Int) : List Char :=
  let digits := decimalChars e.natAbs
  (if e < 0 then '-' else '+') :: (if digits.length < 2 then '0' :: digits else digits)

/-- The digits with a point after the first one and an exponent. -/
def scientific (digits : List Char) (e : Int) : List Char :=
  match digits with
  | [] => []
  | [d] => d :: 'e' :: exponentChars e
  | d :: rest => d :: '.' :: rest ++ 'e' :: exponentChars e

/-- Decimal digits in a style. -/
def NumberStyle.write (style : NumberStyle) (d : Digits) : List Char :=
  let digits := decimalChars d.coefficient
  let first : Int := d.exponent + (digits.length - 1 : Int)
  if -4 ≤ first ∧ first < style.positionalBelow then
    positional style.keepPoint digits (first + 1)
  else
    scientific digits first

/-- A number in a style, with the digits that `choose` gives to a positive one. -/
def writeFloat (style : NumberStyle) (choose : Nat → Int → Digits) (x : Float) : String :=
  match Binary64.ofFloat x with
  | .nan => "nan"
  | .infinite negative => if negative then "-inf" else "inf"
  | .finite negative m e =>
    let body :=
      if m = 0 then (if style.keepPoint then ['0', '.', '0'] else ['0'])
      else style.write (choose m e)
    .ofList (if negative then '-' :: body else body)

/-- A number with the fewest digits that read back. -/
def plainText (x : Float) : String :=
  writeFloat plainStyle Digits.shortest x

/-- A number with six digits at most. -/
def briefText (x : Float) : String :=
  writeFloat briefStyle (Digits.significant · · 6) x

/-- A number with one place after the point. -/
def tenthsText (x : Float) : String :=
  match Binary64.ofFloat x with
  | .nan => "nan"
  | .infinite negative => if negative then "-inf" else "inf"
  | .finite negative m e =>
    let tenths := Digits.atPlaces m e 1
    let body := decimalChars (tenths / 10) ++ '.' :: decimalChars (tenths % 10)
    .ofList (if negative then '-' :: body else body)

end SourceAtlas
