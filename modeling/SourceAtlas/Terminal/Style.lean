import SourceAtlas.Terminal.Color

/-!
# Styles

A style is written in words: attributes, such as `bold` or `not bold`, a color, a color `on` another
one, and a `link`. One style has many spellings, and a closing tag may choose another one than its
opening tag; both have the same name. Main functions: `Style.read`, and `styleName` for the name of
a style however it is written.
-/

namespace SourceAtlas.Terminal

open Text

/-- The ways to set a text off, in the order in which they are named. -/
inductive Attribute where
  | bold | dim | italic | underline | blink | rapidBlink | reverse | conceal | strike
  | doubleUnderline | frame | encircle | overline
  deriving DecidableEq, Repr

namespace Attribute

/-- All attributes in order. -/
def all : List Attribute := [
  bold, dim, italic, underline, blink, rapidBlink, reverse, conceal, strike, doubleUnderline,
  frame, encircle, overline]

def name : Attribute → String
  | bold => "bold"
  | dim => "dim"
  | italic => "italic"
  | underline => "underline"
  | blink => "blink"
  | rapidBlink => "blink2"
  | reverse => "reverse"
  | conceal => "conceal"
  | strike => "strike"
  | doubleUnderline => "underline2"
  | frame => "frame"
  | encircle => "encircle"
  | overline => "overline"

/-- The short name of an attribute, if it has one. -/
def shortName? : Attribute → Option String
  | bold => some "b"
  | dim => some "d"
  | italic => some "i"
  | underline => some "u"
  | reverse => some "r"
  | conceal => some "c"
  | strike => some "s"
  | doubleUnderline => some "uu"
  | overline => some "o"
  | _ => none

/-- The attribute with a name or a short name. -/
def ofName? (s : String) : Option Attribute :=
  all.find? fun a => a.name = s || a.shortName? = some s

theorem mem_all (a : Attribute) : a ∈ all := by
  cases a <;> decide

theorem ofName?_name (a : Attribute) : ofName? a.name = some a := by
  cases a <;> decide

end Attribute

/-- A style. An attribute is switched on or off, or left alone. -/
structure Style where
  /-- The attributes that have been set, the latest one first. -/
  attributes : List (Attribute × Bool) := []
  color : Option (List Char) := none
  background : Option (List Char) := none
  link : Option (List Char) := none
  deriving DecidableEq, Repr

namespace Style

/-- What the next word of a style is. -/
inductive Expected where
  | any
  /-- A color, after `on`. -/
  | background
  /-- An attribute, after `not`. -/
  | denied
  | link
  deriving DecidableEq, Repr

/-- A style that has been read in part. -/
structure Reading where
  style : Style := {}
  expected : Expected := .any

/-- Reads a word of a style. -/
def Reading.step (r : Reading) (word : List Char) : Except Color.Fault Reading :=
  match r.expected with
  | .background => (Color.read word).map fun c => { style := { r.style with background := some c } }
  | .denied =>
    match Attribute.ofName? (.ofList word) with
    | some a => .ok { style := { r.style with attributes := (a, false) :: r.style.attributes } }
    | none => .error .unknown
  | .link => .ok { style := { r.style with link := some word } }
  | .any =>
    let small := String.ofList (lower word)
    if small = "on" then .ok { r with expected := .background }
    else if small = "not" then .ok { r with expected := .denied }
    else if small = "link" then .ok { r with expected := .link }
    else match Attribute.ofName? small with
      | some a => .ok { style := { r.style with attributes := (a, true) :: r.style.attributes } }
      | none => (Color.read word).map fun c => { style := { r.style with color := some c } }

/-- The style that some words write. -/
def ofWords (words : List (List Char)) : Except Color.Fault Style := do
  let r ← words.foldlM Reading.step {}
  if r.expected = .any then return r.style else .error .unknown

/-- The style that a text writes. The word `none` writes it only if it stands alone. -/
def read (cs : List Char) : Except Color.Fault Style :=
  if strip cs = "none".toList then .ok {}
  else ofWords ((splitAll isBlank cs).filter (!·.isEmpty))

/-- The words for the attributes of a style. -/
def attributeWords (s : Style) : List (List Char) :=
  Attribute.all.filterMap fun a =>
    (s.attributes.lookup a).map fun isOn =>
      if isOn then a.name.toList else ("not " ++ a.name).toList

/-- The name of a style, whatever the order and the spelling of its words. -/
def name (s : Style) : List Char :=
  let words := s.attributeWords ++ s.color.toList
    ++ (s.background.map ("on ".toList ++ ·)).toList
    ++ (s.link.map ("link ".toList ++ ·)).toList
  if words.isEmpty then "none".toList else joinWith [' '] words

end Style

/-- A color in a tag has a part that is no number. -/
structure BadColor where
  deriving DecidableEq, Repr

/-- The name of the style that a text writes. A text that writes none stands for itself, in small
    letters. -/
def styleName (cs : List Char) : Except BadColor (List Char) :=
  match Style.read cs with
  | .ok s => .ok s.name
  | .error .unknown => .ok (lower (strip cs))
  | .error .noNumber => .error {}

end SourceAtlas.Terminal
