import SourceAtlas.Pattern.CharClass

/-!
# Line patterns

A pattern describes a piece of a line: classes of characters in sequence, alternatives,
repetitions, assertions about what stands around, and named parts that a match reports. Sequences
are written `p ++ q`, alternatives `p <|> q`.

Where a pattern can match in several ways, the order of its alternatives decides: the left
alternative before the right one, one more repetition before one less (`many`) or the other way
round (`fewest1`). `Pattern.run` of the module on matching makes that order precise.
-/

namespace SourceAtlas

/-- The parts of a line that a match reports. -/
inductive Part where
  /-- The name that a declaration introduces. -/
  | name
  /-- The module that an import names. -/
  | target
  /-- The clause in which an import lists symbols. -/
  | clause
  deriving DecidableEq, Repr

/-- A description of a piece of a line. -/
inductive Pattern where
  /-- The empty piece. -/
  | nothing
  /-- One character of a class. -/
  | one (s : CharClass)
  /-- A piece and the piece after it. -/
  | seq (p q : Pattern)
  /-- Either of two pieces, the first preferred. -/
  | alt (p q : Pattern)
  /-- Any number of pieces, as many as possible preferred. -/
  | many (p : Pattern)
  /-- Any number of pieces, as few as possible preferred. -/
  | fewest (p : Pattern)
  /-- A part that the match reports. -/
  | part (label : Part) (p : Pattern)
  /-- Nothing is consumed, and the piece stands here. -/
  | ahead (p : Pattern)
  /-- Nothing is consumed, and the piece does not stand here. -/
  | notAhead (p : Pattern)
  /-- The beginning of the text. -/
  | start
  /-- The end of the text, or a line feed that ends it. -/
  | finish
  /-- The border between a word character and anything else. -/
  | edge

namespace Pattern

instance : Append Pattern := ⟨seq⟩

instance : OrElse Pattern := ⟨fun p q => alt p (q ())⟩

/-- At least one piece, as many as possible preferred. -/
def many1 (p : Pattern) : Pattern := seq p (many p)

/-- At least one piece, as few as possible preferred. -/
def fewest1 (p : Pattern) : Pattern := seq p (fewest p)

/-- A piece that may be missing; present is preferred. -/
def optional (p : Pattern) : Pattern := alt p nothing

/-- The characters of a text, one after the other. -/
def litChars (toClass : Char → CharClass) : List Char → Pattern
  | [] => nothing
  | [c] => one (toClass c)
  | c :: rest => seq (one (toClass c)) (litChars toClass rest)

/-- A text as it stands. -/
def lit (text : String) : Pattern := litChars .just text.toList

/-- A text in any case. -/
def anyCase (text : String) : Pattern := litChars .letter text.toList

/-- The first of several pieces that fits. -/
def firstOf : List Pattern → Pattern
  | [] => notAhead nothing
  | [p] => p
  | p :: rest => alt p (firstOf rest)

/-- One of several texts. -/
def oneOf (texts : List String) : Pattern := firstOf (texts.map lit)

/-- One of several texts in any case. -/
def anyCaseOf (texts : List String) : Pattern := firstOf (texts.map anyCase)

/-- Some blanks. -/
def gap : Pattern := many1 (one .anyBlank)

/-- Any number of blanks. -/
def blanks : Pattern := many (one .anyBlank)

/-- Some word characters. -/
def ident : Pattern := many1 (one .anyWord)

/-- The name of a declaration. -/
def name (p : Pattern) : Pattern := part .name p

/-- The module of an import. -/
def target (p : Pattern) : Pattern := part .target p

/-- The symbol clause of an import. -/
def clause (p : Pattern) : Pattern := part .clause p

end Pattern

end SourceAtlas
