import SourceAtlas.Decimal.FromText
import SourceAtlas.Enrichment.Checked
import SourceAtlas.Text.Blank
import SourceAtlas.Text.Utf8
import SourceAtlas.Value.Number

/-!
# Fields of an answer

An answer comes from a language model, so its fields are read with some tolerance: a number may be
written as a text, a whole number with a fraction of zeros, and a truth value counts as one or
zero; bytes count as the text that they encode, and a tuple as a list. Anything else that is not of
the expected kind is an error.

Validators differ in one thing: whether halves of surrogate pairs may stand in a text whose
characters do not matter. All fields that hold such a text are checked for either kind of validator,
by a flag `halves`; in a text that is measured or read as something else there are no halves.
-/

namespace SourceAtlas.Field

/-- A text is taken as it is if it is well formed, or if halves of surrogate pairs are let in. -/
def isTaken (halves : Bool) (s : String) : Bool :=
  halves || Text.isWellFormed s

/-- The text of a value, if it has one. Bytes never encode halves of surrogate pairs, so the
    characters that stand for halves are not taken from them either. -/
def textOf? (halves : Bool) : Value → Option String
  | .text s => if isTaken halves s then some s else none
  | .bytes data => (Utf8.decode data).toOption.filter Text.isWellFormed
  | _ => none

/-- A text. -/
def text (halves : Bool) (v : Value) : Checked String :=
  .ofOption (textOf? halves v)

/-- A text that is not empty. It is measured, so there are no halves in it. -/
def someText (v : Value) : Checked String :=
  (text false v).when (!·.isEmpty)

/-- A text or nothing. -/
def textOrNull (halves : Bool) : Value → Checked (Option String)
  | .null => .valid none
  | v => (text halves v).map some

/-- The blanks that may stand around a number: all but the separators U+001C to U+001F. -/
def isNumberBlank (c : Char) : Bool :=
  Text.isBlank c && !(28 ≤ c.toNat && c.toNat ≤ 31)

/-- The number that a text writes: with blanks around it, or else with low lines in it. -/
def floatOfText? (s : String) : Option Float :=
  floatOfChars? (Text.trim isNumberBlank s.toList)
    <|> (dropLowLines? s.toList).bind floatOfChars?

/-- A number. -/
def number : Value → Checked Float
  | .float x => .valid x
  | .int i => .ofOption (Binary64.ofInt? i)
  | .bool b => .valid (if b then 1.0 else 0.0)
  | v => .ofOption ((textOf? false v).bind floatOfText?)

/-- A number of at least zero. -/
def score (v : Value) : Checked Float :=
  (number v).when (0.0 ≤ ·)

/-- A number from zero to a hundred. -/
def percentage (v : Value) : Checked Float :=
  (number v).when fun x => 0.0 ≤ x && x ≤ 100.0

/-- A whole number. -/
def whole : Value → Checked Int
  | .int i => .valid i
  | .bool b => .valid (if b then 1 else 0)
  | .float x => .ofOption (wholeOfFloat? x)
  | v =>
    .ofOption ((textOf? false v).bind fun s => wholeOfChars? (Text.trim isNumberBlank s.toList))

/-- A whole number of at least zero. -/
def natural (v : Value) : Checked Nat :=
  ((whole v).when (0 ≤ ·)).map Int.toNat

/-- A list of items of one kind. -/
def list {α : Type} (item : Value → Checked α) : Value → Checked (List α)
  | .list items | .tuple items => Checked.all item items
  | _ => .error

/-- A list of texts. -/
def texts (halves : Bool) : Value → Checked (List String) := list (text halves)

/-- An object, by its entries. -/
def object {α : Type} (check : Entries → Checked α) : Value → Checked α
  | .record entries => check entries
  | _ => .error

/-- An object or nothing. -/
def objectOrNull {α : Type} (check : Entries → Checked α) : Value → Checked (Option α)
  | .null => .valid none
  | v => (object check v).map some

/-- The entry under the first of several names that is there. -/
def find? (entries : Entries) (names : List String) : Option Value :=
  names.findSome? fun name => entries.lookup name

/-- A field that has to be there. -/
def required {α : Type} (entries : Entries) (names : List String) (check : Value → Checked α) :
    Checked α :=
  match find? entries names with
  | some v => check v
  | none => .error

/-- A field with a default. A field that is there has to be right. -/
def optional {α : Type} (entries : Entries) (names : List String) (default : α)
    (check : Value → Checked α) : Checked α :=
  match find? entries names with
  | some v => check v
  | none => .valid default

end SourceAtlas.Field
