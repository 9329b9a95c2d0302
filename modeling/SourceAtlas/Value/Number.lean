import SourceAtlas.Decimal.Written
import SourceAtlas.Value.Basic

/-!
# Numbers

A number that comes from outside keeps the form in which it was given: a whole number of any size, a
floating-point number, or a truth value, which counts as one or zero. Numbers are compared by their
exact values (`Number.isBelow`), whatever their forms. `Figure` is what the counts of an outline can
be: whole numbers, or numbers of any form.
-/

namespace SourceAtlas

/-- The nearest floating-point number, unless the whole number is beyond all of them. -/
def Binary64.ofInt? (i : Int) : Option Float :=
  let x := ofInt i
  match ofFloat x with
  | finite .. => some x
  | _ => none

/-- The nearest floating-point number to a quotient, unless that is beyond all of them. -/
def Binary64.ofQuotient? (num : Int) (den : Nat) : Option Float :=
  let x := ofQuotient num den
  match ofFloat x with
  | finite .. => some x
  | _ => none

/-- A number in the form in which it was given. -/
inductive Number where
  | whole (i : Int)
  | real (x : Float)
  | truth (b : Bool)
  deriving Repr

namespace Number

instance : Inhabited Number := ⟨whole 0⟩

/-- The number as a whole one, if it is not a floating-point number. -/
def whole? : Number → Option Int
  | whole i => some i
  | truth b => some (if b then 1 else 0)
  | real _ => none

/-- The number as a floating-point number, infinite if it is too large. -/
def toFloat (n : Number) : Float :=
  match n with
  | real x => x
  | n => Binary64.ofInt (n.whole?.getD 0)

/-- The number as a floating-point number, unless it is too large. -/
def float? (n : Number) : Option Float :=
  match n with
  | real x => some x
  | n => n.whole?.bind Binary64.ofInt?

/-- The number as a text. -/
def text : Number → String
  | whole i => integerText i
  | real x => plainText x
  | truth b => if b then "True" else "False"

/-- The number as a value. -/
def value : Number → Value
  | whole i => .int i
  | real x => .float x
  | truth b => .bool b

/-- The exact value as a fraction, if it is finite. -/
def fraction? (n : Number) : Option (Int × Nat) :=
  match n with
  | real x =>
    match Binary64.ofFloat x with
    | .finite negative m e =>
      let (num, den) := Digits.fraction m e
      some (if negative then -(num : Int) else num, den)
    | _ => none
  | n => n.whole?.map (·, 1)

/-- A number that is not finite as a floating-point number, and zero for any other. -/
def beyond (n : Number) : Float :=
  if n.fraction?.isSome then 0.0 else n.toFloat

/-- One number is less than another one. -/
def isBelow (a b : Number) : Bool :=
  match a.fraction?, b.fraction? with
  | some (n, d), some (m, e) => n * e < m * d
  | _, _ => a.beyond < b.beyond

/-- Two numbers have the same value. -/
def isSame (a b : Number) : Bool :=
  match a.fraction?, b.fraction? with
  | some (n, d), some (m, e) => n * e = m * d
  | none, none => a.toFloat == b.toFloat
  | _, _ => false

/-- One number is at most another one. -/
def isAtMost (a b : Number) : Bool :=
  a.isBelow b || a.isSame b

/-- The sum of two numbers, a floating-point number if one of them is. -/
def add (a b : Number) : Number :=
  match a.whole?, b.whole? with
  | some i, some j => whole (i + j)
  | _, _ => real (a.toFloat + b.toFloat)

/-- The sum of two numbers, unless a whole one is too large to be added to a floating-point
    number. -/
def add? (a b : Number) : Option Number :=
  match a.whole?, b.whole? with
  | some _, some _ => some (a.add b)
  | _, _ => if a.float?.isSome && b.float?.isSome then some (a.add b) else none

/-- The sum of numbers from the left, if there is one. -/
def sum? (numbers : List Number) : Option Number :=
  numbers.foldlM add? (whole 0)

/-- The number divided by a positive whole one, if the quotient is not too large. -/
def dividedBy? (n : Number) (k : Nat) : Option Float :=
  match n with
  | real x => some (x / Binary64.ofInt k)
  | n => n.whole?.bind (Binary64.ofQuotient? · k)

/-- The least natural number that is not below the number; there is none if no natural number is at
    least as large. -/
def countLimit? (n : Number) : Option Nat :=
  match n.fraction? with
  | some (num, den) => some ((num.toNat + den - 1) / den)
  | none => none

end Number

/-- A value as a number. -/
def Value.number? : Value → Option Number
  | .int i => some (.whole i)
  | .float x => some (.real x)
  | .bool b => some (.truth b)
  | _ => none

/-- The sum of two values, if they can be added: numbers, and texts, lists and the like, which are
    put one after the other. A list takes up the items of whatever has items. -/
def Value.add? (v w : Value) : Option Value :=
  match v, w with
  | .text a, .text b => some (.text (a ++ b))
  | .bytes a, .bytes b => some (.bytes (a ++ b))
  | .tuple a, .tuple b => some (.tuple (a ++ b))
  | .list a, w => w.items?.map fun b => .list (a ++ b)
  | v, w => do
    let sum ← (← v.number?).add? (← w.number?)
    return sum.value

/-- What the counts and scores of an outline can be. -/
class Figure (ν : Type) where
  ofNat : Nat → ν
  add : ν → ν → ν
  /-- The figure as a number. -/
  number : ν → Number

instance : Figure Int := ⟨Int.ofNat, (· + ·), .whole⟩

instance : Figure Number := ⟨fun n => .whole n, .add, id⟩

namespace Figure

variable {ν : Type} [Figure ν]

/-- The figure as a text. -/
def text (n : ν) : String := (number n).text

/-- The figure as a value. -/
def value (n : ν) : Value := (number n).value

/-- The sum of figures. -/
def total (figures : List ν) : ν := figures.foldl add (ofNat 0)

/-- The first figure that no other exceeds. -/
def highest (first : ν) (others : List ν) : ν :=
  others.foldl (fun m n => if (number m).isBelow (number n) then n else m) first

/-- The first figure that exceeds no other. -/
def lowest (first : ν) (others : List ν) : ν :=
  others.foldl (fun m n => if (number n).isBelow (number m) then n else m) first

end Figure

/-- The exact comparison of whole numbers is their order. -/
theorem Number.isBelow_whole (i j : Int) : (whole i).isBelow (whole j) = decide (i < j) := by
  simp [isBelow, fraction?, whole?]

end SourceAtlas
