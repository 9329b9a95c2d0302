/-!
# Blanks and lines

What counts as blank space and where a text breaks into lines. Main functions: `strip`, which
removes blanks from both ends, and `lines`, which cuts a text at its line breaks without keeping
them; a carriage return followed by a line feed is one break, and a break at the very end opens
no further line.
-/

namespace SourceAtlas.Text

/-- White space: the ASCII controls from tab to carriage return and the four separators
    U+001C to U+001F, the space, and the spaces and separators beyond ASCII. The zero-width
    space is not one of them. -/
def isBlank (c : Char) : Bool :=
  let n := c.toNat
  (9 ≤ n && n ≤ 13) || (28 ≤ n && n ≤ 32) || n = 0x85 || n = 0xA0 || n = 0x1680
    || (0x2000 ≤ n && n ≤ 0x200A) || n = 0x2028 || n = 0x2029 || n = 0x202F || n = 0x205F
    || n = 0x3000

/-- A character that ends a line. -/
def isLineBreak (c : Char) : Bool :=
  let n := c.toNat
  (10 ≤ n && n ≤ 13) || (28 ≤ n && n ≤ 30) || n = 0x85 || n = 0x2028 || n = 0x2029

/-- Removes from the end all characters of a class. -/
def dropEnd (p : Char → Bool) (cs : List Char) : List Char :=
  (cs.reverse.dropWhile p).reverse

/-- Removes from both ends all characters of a class. -/
def trim (p : Char → Bool) (cs : List Char) : List Char :=
  dropEnd p (cs.dropWhile p)

/-- Removes the blanks at both ends. -/
def strip (cs : List Char) : List Char :=
  trim isBlank cs

/-- Puts a character in front of the first line. -/
def consLine (c : Char) : List (List Char) → List (List Char)
  | [] => [[c]]
  | line :: rest => (c :: line) :: rest

/-- The lines of a text, without their breaks. -/
def lines : List Char → List (List Char)
  | [] => []
  | '\r' :: '\n' :: rest => [] :: lines rest
  | c :: rest => if isLineBreak c then [] :: lines rest else consLine c (lines rest)

end SourceAtlas.Text
