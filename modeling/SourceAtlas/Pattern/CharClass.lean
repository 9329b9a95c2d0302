import SourceAtlas.Text.Blank
import SourceAtlas.Text.Case
import SourceAtlas.Text.Word

/-!
# Classes of characters

The classes that a line pattern tests single characters against: word characters, blanks, ranges,
listed characters, letters regardless of case, and the complement of all these.
-/

namespace SourceAtlas

/-- A set of characters, as the union of the parts that are present, or its complement. -/
structure CharClass where
  /-- All word characters belong to it. -/
  word : Bool := false
  /-- All blanks belong to it. -/
  blank : Bool := false
  /-- Closed ranges of characters. -/
  ranges : List (Char × Char) := []
  /-- Single characters. -/
  chars : List Char := []
  /-- Letters that stand for both their cases. -/
  letters : List Char := []
  /-- The class holds the characters outside these parts. -/
  negated : Bool := false

namespace CharClass

/-- Membership of a character in the listed parts. -/
def lists (s : CharClass) (c : Char) : Bool :=
  (s.word && Text.isWord c) || (s.blank && Text.isBlank c)
    || s.ranges.any (fun (low, high) => low ≤ c && c ≤ high)
    || s.chars.contains c || s.letters.any (Text.sameLetter · c)

/-- Membership of a character in the class. -/
def contains (s : CharClass) (c : Char) : Bool :=
  s.lists c != s.negated

/-- A single character. -/
def just (c : Char) : CharClass := { chars := [c] }

/-- One letter in either case, or a character without case. -/
def letter (c : Char) : CharClass := { letters := [c] }

/-- The listed characters. -/
def among (cs : String) : CharClass := { chars := cs.toList }

/-- All but the listed characters. -/
def except (cs : String) : CharClass := { chars := cs.toList, negated := true }

/-- The word characters. -/
def anyWord : CharClass := { word := true }

/-- Word characters and the listed ones. -/
def wordOr (cs : String) : CharClass := { word := true, chars := cs.toList }

/-- Word characters, blanks and the listed characters. -/
def wordBlankOr (cs : String) : CharClass := { word := true, blank := true, chars := cs.toList }

/-- The blanks. -/
def anyBlank : CharClass := { blank := true }

/-- Blanks and the listed characters. -/
def blankOr (cs : String) : CharClass := { blank := true, chars := cs.toList }

/-- All but blanks and the listed characters. -/
def nonBlankBut (cs : String) : CharClass :=
  { blank := true, chars := cs.toList, negated := true }

/-- The capital letters of ASCII. -/
def upper : CharClass := { ranges := [('A', 'Z')] }

/-- The small letters of ASCII. -/
def lower : CharClass := { ranges := [('a', 'z')] }

/-- Small letters of ASCII and the listed characters. -/
def lowerOr (cs : String) : CharClass := { ranges := [('a', 'z')], chars := cs.toList }

/-- All but the line feed. -/
def notNewline : CharClass := { chars := ['\n'], negated := true }

end CharClass

end SourceAtlas
