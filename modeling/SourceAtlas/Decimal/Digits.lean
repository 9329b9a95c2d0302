import SourceAtlas.Decimal.Binary64

/-!
# Decimal digits of a floating-point number

A positive number is written with a coefficient and an exponent, `coefficient · 10 ^ exponent`.
`Digits.shortest` takes the fewest digits that still read back as the number, and of those the
nearest to it; `Digits.significant` rounds to a given number of digits, and `roundPlaces` to a given
number of places after the point.
-/

namespace SourceAtlas

/-- A positive decimal number `coefficient · 10 ^ exponent`. -/
structure Digits where
  coefficient : Nat
  exponent : Int
  deriving DecidableEq, Repr

namespace Digits

/-- The fraction `value · 10 ^ k`, for a fraction `num / den`. -/
def shift (num den : Nat) (k : Int) : Nat × Nat :=
  if 0 ≤ k then (num * pow10 k.toNat, den) else (num, den * pow10 (-k).toNat)

/-- The exponent of the first digit of a positive fraction: `10 ^ magnitude ≤ num / den` and
    `num / den < 10 ^ (magnitude + 1)`. -/
def magnitude (num den : Nat) : Int :=
  let guess : Int := ((Nat.log2 num : Int) - Nat.log2 den) * 30103 / 100000
  let reaches (e : Int) : Bool :=
    let (n, d) := shift num den (-e)
    d ≤ n
  ([guess + 2, guess + 1, guess, guess - 1].find? reaches).getD (guess - 2)

/-- The fraction `mantissa · 2 ^ exponent`. -/
def fraction (mantissa : Nat) (exponent : Int) : Nat × Nat :=
  if 0 ≤ exponent then (mantissa * pow2 exponent.toNat, 1) else (mantissa, pow2 (-exponent).toNat)

/-- Drops the zeros at the end of the coefficient, at most `n` of them. -/
def dropZeros : Nat → Digits → Digits
  | 0, d => d
  | n + 1, d =>
    if d.coefficient % 10 = 0 ∧ d.coefficient ≠ 0 then
      dropZeros n ⟨d.coefficient / 10, d.exponent + 1⟩
    else d

/-- The numbers that read back as `mantissa · 2 ^ exponent` lie between two fractions, ends included
    when the mantissa is even. The lower half of the gap is half as wide below a power of two. -/
def readsBack (mantissa : Nat) (exponent : Int) (num den : Nat) : Bool :=
  let low := 4 * mantissa - (if mantissa = pow2 52 ∧ -1074 < exponent then 1 else 2)
  let high := 4 * mantissa + 2
  let (lowNum, lowDen) := fraction low (exponent - 2)
  let (highNum, highDen) := fraction high (exponent - 2)
  if mantissa % 2 = 0 then lowNum * den ≤ num * lowDen && num * highDen ≤ highNum * den
  else lowNum * den < num * lowDen && num * highDen < highNum * den

/-- The nearest number with `count` digits that reads back, if one does. Only the two neighbours of
    the value on this grid need a look. -/
def withCount? (mantissa : Nat) (exponent : Int) (count : Nat) : Option Digits :=
  let (num, den) := fraction mantissa exponent
  let place := magnitude num den - (count - 1 : Int)
  let (n, d) := shift num den (-place)
  let below := n / d
  let rest := n % d
  let hits (c : Nat) : Bool :=
    let (cn, cd) := shift c 1 place
    readsBack mantissa exponent cn cd
  let chosen :=
    match hits below, hits (below + 1) with
    | true, false => some below
    | false, true => some (below + 1)
    | false, false => none
    | true, true => some (roundHalfEven n d)
  if rest = 0 then some ⟨below, place⟩ else chosen.map (⟨·, place⟩)

/-- The fewest digits that read back as `mantissa · 2 ^ exponent`; seventeen always do. -/
def shortest (mantissa : Nat) (exponent : Int) : Digits :=
  let counts := (List.range 17).map (· + 1)
  dropZeros 20 ((counts.findSome? (withCount? mantissa exponent)).getD ⟨mantissa, 0⟩)

/-- The number rounded to `count` digits, ties to the even digit. -/
def significant (mantissa : Nat) (exponent : Int) (count : Nat) : Digits :=
  let (num, den) := fraction mantissa exponent
  let place := magnitude num den - (count - 1 : Int)
  let (n, d) := shift num den (-place)
  dropZeros (count + 1) ⟨roundHalfEven n d, place⟩

/-- How often `10 ^ -places` goes into the number, to the nearest whole number, ties to the even
    one. -/
def atPlaces (mantissa : Nat) (exponent : Int) (places : Nat) : Nat :=
  let (num, den) := fraction mantissa exponent
  roundHalfEven (num * pow10 places) den

end Digits

/-- A floating-point number rounded to a number of places after the point. The rounding looks at
    the exact value, and the result is the floating-point number nearest to the decimal. -/
def roundPlaces (places : Nat) (x : Float) : Float :=
  match Binary64.ofFloat x with
  | .finite negative m e => Binary64.nearest negative (Digits.atPlaces m e places) (pow10 places)
  | _ => x

end SourceAtlas
