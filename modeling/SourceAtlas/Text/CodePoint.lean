/-!
# Code points

Classes of characters are tables of closed ranges of code points (`inRanges`, `inCutRanges`).

A text from outside may hold a code point between U+D800 and U+DFFF, half of a surrogate pair, which
is no character. Inside this library the characters U+10D800 to U+10DFFF of the last plane, which is
for private use, stand for them. `ofPoint` and `point` go from code points to characters and back;
a text with a half in it is not well formed (`isWellFormed`), so it has no bytes in UTF-8.

What stands for a half cannot stand for itself: of a text that really holds one of the characters
U+10D800 to U+10DFFF, these characters are taken for halves. They come before U+E000 in the order
of texts (`precedes`), their bytes in UTF-8 are such that no reader takes them, and in quotes they
are written as halves are. Whatever is said about order or bytes is said with this exclusion.
-/

namespace SourceAtlas.Text

/-! ## Ranges -/

/-- The code point `n` lies in one of the closed ranges. -/
def inRanges (ranges : List (Nat × Nat)) (n : Nat) : Bool :=
  ranges.any fun (low, high) => low ≤ n && n ≤ high

/-- A table cut in three: below U+3000, up to the end of the first plane, beyond it. -/
def inCutRanges (low mid high : List (Nat × Nat)) (n : Nat) : Bool :=
  if n < 0x3000 then inRanges low n
  else if n < 0x10000 then inRanges mid n
  else inRanges high n

/-! ## Halves of surrogate pairs -/

/-- A code point that is half of a surrogate pair. -/
def isHalf (n : Nat) : Bool :=
  0xD800 ≤ n && n ≤ 0xDFFF

/-- The distance from a half to the character that stands for it. -/
def halfDistance : Nat := 0x100000

/-- The character of a code point, or the one that stands for it. -/
def ofPoint (n : Nat) : Char :=
  Char.ofNat (if isHalf n then n + halfDistance else n)

/-- The code point that a character stands for. -/
def point (c : Char) : Nat :=
  if halfDistance ≤ c.toNat && isHalf (c.toNat - halfDistance) then c.toNat - halfDistance
  else c.toNat

/-- The code points of a text. -/
def points (s : String) : List Nat :=
  s.toList.map point

/-- A text without halves. -/
def isWellFormed (s : String) : Bool :=
  s.toList.all fun c => !isHalf (point c)

/-- One text comes before another one: at the first difference it has the smaller code point, or it
    ends there. -/
def precedes : List Char → List Char → Bool
  | _, [] => false
  | [], _ :: _ => true
  | c :: cs, d :: ds => point c < point d || (c = d && precedes cs ds)

/-- A half is kept by the character that stands for it. -/
theorem point_ofPoint_of_isHalf {n : Nat} (h : isHalf n = true) : point (ofPoint n) = n := by
  have hn : 0xD800 ≤ n ∧ n ≤ 0xDFFF := by simpa [isHalf] using h
  have hv : (n + halfDistance).isValidChar := by
    simp only [Nat.isValidChar, halfDistance]; omega
  have ht : (Char.ofNat (n + halfDistance)).toNat = n + halfDistance := by
    rw [Char.ofNat, dif_pos hv]
    rfl
  simp [ofPoint, h, point, ht]

/-- No text precedes itself. -/
theorem precedes_self (cs : List Char) : precedes cs cs = false := by
  induction cs with
  | nil => rfl
  | cons c cs ih => simp [precedes, ih]

end SourceAtlas.Text
