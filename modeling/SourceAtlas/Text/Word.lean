import SourceAtlas.Text.WordTable

/-!
# Word characters

A word character is a letter, a digit or another numeric character, or the low line. Words
of a text are its maximal runs of word characters; `Text.mentions` asks whether a name occurs
on its own, next to neither a word character nor a dollar sign.
-/

namespace SourceAtlas.Text

/-- Letters, digits, numeric characters and the low line. -/
def isWord (c : Char) : Bool :=
  let n := c.toNat
  if n < 128 then c.isAlphanum || c = '_'
  else inCutRanges wordRangesLow wordRangesMid wordRangesHigh n

/-- A character that continues a name in source text: a word character or a dollar sign. -/
def isNameChar (c : Char) : Bool :=
  isWord c || c = '$'

/-- The name may stand here: the character in front does not continue a name, the text begins
    with the name, and what follows does not continue it. -/
def standsAt (name : List Char) (before : Option Char) (text : List Char) : Bool :=
  !before.any isNameChar && name.isPrefixOf text
    && !(text.drop name.length).head?.any isNameChar

/-- The name stands somewhere in the text, which follows the character `before`. -/
def mentionsAfter (name : List Char) : Option Char → List Char → Bool
  | before, [] => standsAt name before []
  | before, c :: rest =>
    standsAt name before (c :: rest) || mentionsAfter name (some c) rest

/-- The name occurs in the text as a whole word. -/
def mentions (text name : List Char) : Bool :=
  mentionsAfter name none text

/-- A name of source code: it starts with an ASCII letter, a low line or a dollar sign and goes
    on with name characters. A line feed at its end is tolerated. -/
def isIdentifier : List Char → Bool
  | [] => false
  | c :: rest =>
    (c.isAlpha || c = '_' || c = '$')
      && (rest.all isNameChar
        || (rest.getLast? = some '\n' && rest.dropLast.all isNameChar))

end SourceAtlas.Text
