import SourceAtlas.Decimal.FromText
import SourceAtlas.Text.Case
import SourceAtlas.Text.Cut
import SourceAtlas.Text.Digit

/-!
# Colors

How a color is written in a style: by a name, as in `red` or `red3`, by six hexadecimal digits, as
in `#ff8000`, by its number in the palette, as in `color(9)`, or by its parts, as in
`rgb(255,128,0)`. Main function: `Color.read`.
-/

namespace SourceAtlas.Terminal.Color

open Text

/-- Why a word is no color. -/
inductive Fault where
  | unknown
  /-- A part of the color is missing, or too long to be read as a number. -/
  | noNumber
  deriving DecidableEq, Repr

/-- The colors that come in one shade. -/
def plainNames : List String := [
    "black", "white", "bright_black", "bright_red", "bright_green", "bright_yellow",
    "bright_blue", "bright_magenta", "bright_cyan", "bright_white", "navy_blue", "dark_blue",
    "dark_green", "dark_cyan", "light_sea_green", "dark_turquoise", "medium_spring_green",
    "dark_red", "blue_violet", "cornflower_blue", "cadet_blue", "medium_turquoise",
    "dark_magenta", "dark_violet", "light_slate_grey", "light_slate_gray", "light_slate_blue",
    "light_green", "medium_violet_red", "dark_goldenrod", "rosy_brown", "dark_khaki",
    "green_yellow", "violet", "tan", "light_coral", "sandy_brown"]

/-- The shades of grey. -/
def greys : List String := [
    "0", "3", "7", "11", "15", "19", "23", "27", "30", "35", "37", "39", "42", "46", "50", "53",
    "54", "58", "62", "63", "66", "69", "70", "74", "78", "82", "84", "85", "89", "93", "100"]

/-- The colors that come in several shades; the shade follows the name. -/
def shadedNames : List (String × List String) := [
    ("red", ["", "1", "3"]), ("green", ["", "1", "3", "4"]), ("yellow", ["", "1", "2", "3", "4"]),
    ("blue", ["", "1", "3"]), ("magenta", ["", "1", "2", "3"]), ("cyan", ["", "1", "2", "3"]),
    ("deep_sky_blue", ["1", "2", "3", "4"]), ("dodger_blue", ["1", "2", "3"]),
    ("spring_green", ["1", "2", "3", "4"]), ("turquoise", ["2", "4"]),
    ("deep_pink", ["1", "2", "3", "4"]), ("purple", ["", "3", "4"]), ("orange", ["1", "3", "4"]),
    ("medium_purple", ["", "1", "2", "3", "4"]), ("slate_blue", ["1", "3"]),
    ("royal_blue", ["1"]), ("chartreuse", ["1", "2", "3", "4"]),
    ("dark_sea_green", ["", "1", "2", "3", "4"]), ("pale_turquoise", ["1", "4"]),
    ("steel_blue", ["", "1", "3"]), ("sky_blue", ["1", "2", "3"]), ("pale_green", ["1", "3"]),
    ("sea_green", ["1", "2", "3"]), ("aquamarine", ["1", "3"]),
    ("dark_slate_gray", ["1", "2", "3"]), ("light_pink", ["1", "3", "4"]),
    ("plum", ["1", "2", "3", "4"]), ("wheat", ["1", "4"]), ("dark_olive_green", ["1", "2", "3"]),
    ("light_sky_blue", ["1", "3"]), ("dark_orange", ["", "3"]), ("indian_red", ["", "1"]),
    ("hot_pink", ["", "2", "3"]), ("medium_orchid", ["", "1", "3"]), ("light_salmon", ["1", "3"]),
    ("gold", ["1", "3"]), ("navajo_white", ["1", "3"]), ("light_steel_blue", ["", "1", "3"]),
    ("light_cyan", ["1", "3"]), ("orchid", ["", "1", "2"]), ("pink", ["1", "3"]),
    ("light_goldenrod", ["1", "2", "3"]), ("misty_rose", ["1", "3"]), ("thistle", ["1", "3"]),
    ("khaki", ["1", "3"]), ("light_yellow", ["3"]), ("honeydew", ["2"]), ("orange_red", ["1"]),
    ("salmon", ["1"]), ("pale_violet_red", ["1"]), ("cornsilk", ["1"]), ("gray", greys),
    ("grey", greys)]

/-- A color has this name, which is in small letters. -/
def isName (name : String) : Bool :=
  name = "default" || plainNames.contains name
    || shadedNames.any fun (base, shades) => shades.any fun shade => base ++ shade = name

/-- A hexadecimal digit in small letters. -/
def isHexDigit (c : Char) : Bool :=
  c.isDigit || ('a' ≤ c && c ≤ 'f')

/-- What stands between an opening text and a parenthesis at the end. -/
def inner? (opening : String) (cs : List Char) : Option (List Char) :=
  let opening := opening.toList
  if opening.isPrefixOf cs && cs.getLast? = some ')' then some ((cs.drop opening.length).dropLast)
  else none

/-- The number of a color in the palette. -/
def isPaletteNumber (digits : List Char) : Bool :=
  isDigits digits && digits.length ≤ 3 && digitsToNat digits ≤ 255

/-- A character of the parts of a color. -/
def isPartsChar (c : Char) : Bool :=
  c = ',' || isBlank c || (digitValue? c).isSome

/-- Checks the parts of a color: three numbers up to 255. -/
def checkParts (cs : List Char) : Except Fault Unit :=
  match splitAll (· = ',') cs with
  | [red, green, blue] =>
    match anyWhole? red, anyWhole? green, anyWhole? blue with
    | some r, some g, some b => if r ≤ 255 ∧ g ≤ 255 ∧ b ≤ 255 then .ok () else .error .unknown
    | _, _, _ => .error .noNumber
  | _ => .error .unknown

/-- Checks that a word in small letters is a color. -/
def check (cs : List Char) : Except Fault Unit :=
  if isName (.ofList cs) then .ok ()
  else match cs with
    | '#' :: digits =>
      if digits.length = 6 ∧ digits.all isHexDigit then .ok () else .error .unknown
    | _ =>
      match inner? "color(" cs, inner? "rgb(" cs with
      | some digits, _ => if isPaletteNumber digits then .ok () else .error .unknown
      | none, some parts =>
        if !parts.isEmpty && parts.all isPartsChar then checkParts parts else .error .unknown
      | none, none => .error .unknown

/-- The color that a word stands for, under its name in small letters. -/
def read (word : List Char) : Except Fault (List Char) := do
  let name := lower word
  check name
  return name

end SourceAtlas.Terminal.Color
