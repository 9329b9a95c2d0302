/-!
# Floating-point numbers as exact numbers

A finite floating-point number is a whole number times a power of two. `Binary64.ofFloat` takes a
number apart, and `Binary64.nearest` goes back: the number that is nearest to a fraction of whole
numbers, with ties to the even one. Everything in between is arithmetic of natural numbers.
-/

namespace SourceAtlas

/-- A power of two. -/
def pow2 (k : Nat) : Nat := Nat.pow 2 k

/-- A power of ten. -/
def pow10 (k : Nat) : Nat := Nat.pow 10 k

theorem pow2_succ (k : Nat) : pow2 (k + 1) = pow2 k * 2 := rfl

/-- A floating-point number, taken apart. -/
inductive Binary64 where
  | nan
  | infinite (negative : Bool)
  /-- The number `mantissa · 2 ^ exponent`, with a sign that zero has, too. -/
  | finite (negative : Bool) (mantissa : Nat) (exponent : Int)
  deriving DecidableEq, Repr

/-- The quotient of two numbers rounded to the nearest whole number, ties to the even one. -/
def roundHalfEven (num den : Nat) : Nat :=
  let q := num / den
  let r := num % den
  if den < 2 * r ∨ (2 * r = den ∧ q % 2 = 1) then q + 1 else q

namespace Binary64

/-- The parts of a floating-point number. -/
def ofFloat (x : Float) : Binary64 :=
  let bits := x.toBits.toNat
  let negative := bits / pow2 63 = 1
  let exponent : Nat := bits / pow2 52 % pow2 11
  let fraction : Nat := bits % pow2 52
  if exponent = 2047 then
    if fraction = 0 then infinite negative else nan
  else if exponent = 0 then finite negative fraction (-1074)
  else finite negative (pow2 52 + fraction) ((exponent : Int) - 1075)

/-- The number with a sign, a mantissa of at most `2 ^ 53` and an exponent of at least -1074;
    infinity if it is too large. -/
def pack (negative : Bool) (mantissa : Nat) (exponent : Int) : Float :=
  let sign := if negative then pow2 63 else 0
  let (m, e) := if mantissa = pow2 53 then (pow2 52, exponent + 1) else (mantissa, exponent)
  let magnitude :=
    if e > 971 then 2047 * pow2 52
    else if m < pow2 52 then m
    else (e + 1075).toNat * pow2 52 + (m - pow2 52)
  Float.ofBits (UInt64.ofNat (sign + magnitude))

/-- A fraction divided by a power of two. -/
def scaled (num den : Nat) (e : Int) : Nat × Nat :=
  if 0 ≤ e then (num, den * pow2 e.toNat) else (num * pow2 (-e).toNat, den)

/-- The exponent for a fraction: its mantissa has 53 binary digits before the point, or fewer if the
    exponent is the least one. -/
def exponentFor (num den : Nat) : Int :=
  let guess : Int := (Nat.log2 num : Int) - Nat.log2 den - 52
  let parts := scaled num den guess
  max (if parts.1 < parts.2 * pow2 52 then guess - 1 else guess) (-1074)

/-- The floating-point number nearest to a fraction, ties to the even mantissa. -/
def nearest (negative : Bool) (num den : Nat) : Float :=
  if num = 0 then pack negative 0 (-1074) else
  let exponent := exponentFor num den
  let parts := scaled num den exponent
  pack negative (roundHalfEven parts.1 parts.2) exponent

/-- A whole number as the nearest floating-point number. -/
def ofInt (i : Int) : Float :=
  nearest (i < 0) i.natAbs 1

/-- The quotient of a whole number by a positive one, as the nearest floating-point number. -/
def ofQuotient (num : Int) (den : Nat) : Float :=
  nearest (num < 0) num.natAbs den

/-- The number `digits · 10 ^ exponent` as the nearest floating-point number. Beyond the range of
    all floating-point numbers the powers of ten need not be computed. -/
def ofDecimal (negative : Bool) (digits : Nat) (exponent : Int) : Float :=
  if digits = 0 then nearest negative 0 1
  else
    let size : Int := (Nat.log2 digits : Int) / 3
    if 400 < size / 2 + exponent then pack negative 0 972
    else if size + exponent < -400 then nearest negative 0 1
    else if 0 ≤ exponent then nearest negative (digits * pow10 exponent.toNat) 1
    else nearest negative digits (pow10 (-exponent).toNat)

end Binary64

end SourceAtlas
