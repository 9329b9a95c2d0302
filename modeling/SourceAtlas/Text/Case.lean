import SourceAtlas.Text.CaseTable
import SourceAtlas.Text.CasedTable

/-!
# Small letters

`lower` writes a text in small letters, and `sameLetter` compares an ASCII character with another
one regardless of case.
-/

namespace SourceAtlas.Text

/-- The small letter that a run gives to a code point of its own. -/
def CaseRun.small? (run : CaseRun) (n : Nat) : Option Nat :=
  if run.first ≤ n ∧ n ≤ run.last ∧ (n - run.first) % run.step = 0 then
    some (run.small + (n - run.first))
  else
    none

/-- The small form of a character. Only the capital I with a dot above takes two characters,
    the letter and the dot. -/
def lowerChar (c : Char) : List Char :=
  let n := c.toNat
  if n < 128 then [c.toLower]
  else if n = 0x130 then ['i', Char.ofNat 0x307]
  else match caseRuns.findSome? (·.small? n) with
    | some small => [Char.ofNat small]
    | none => [c]

/-- A small or capital letter, other than one that is passed over. -/
def isCased (c : Char) : Bool :=
  if c.toNat < 128 then c.isAlpha
  else inCutRanges casedRangesLow casedRangesMid casedRangesHigh c.toNat

/-- A character that is passed over when the letters around a place are looked at. -/
def isPassed (c : Char) : Bool :=
  inCutRanges passedRangesLow passedRangesMid passedRangesHigh c.toNat

/-- The first character that is not passed over is a letter with two cases. -/
def meetsCased (cs : List Char) : Bool :=
  (cs.dropWhile isPassed).head?.any isCased

/-- The small letters of a text that follows other characters, the last of them first. A capital
    sigma at the end of a word becomes the small final one. -/
def lowerAfter : (before : List Char) → List Char → List Char
  | _, [] => []
  | before, c :: rest =>
    (if c.toNat = 0x3A3 then
      [Char.ofNat (if meetsCased before && !meetsCased rest then 0x3C2 else 0x3C3)]
    else lowerChar c) ++ lowerAfter (c :: before) rest

/-- A text in small letters. -/
def lower (cs : List Char) : List Char :=
  lowerAfter [] cs

/-- The ASCII character `c` and `d` are the same letter up to case. Beyond ASCII, the dotted and
    the dotless I count as `i`, the Kelvin sign as `k` and the long s as `s`. -/
def sameLetter (c d : Char) : Bool :=
  c.toLower = d.toLower
    || (c.toLower = 'i' && (d.toNat = 0x130 || d.toNat = 0x131))
    || (c.toLower = 'k' && d.toNat = 0x212A)
    || (c.toLower = 's' && d.toNat = 0x17F)

end SourceAtlas.Text
