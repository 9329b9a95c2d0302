import SourceAtlas.Text.Quoted
import SourceAtlas.Value.Basic

/-!
# Values as text

`Value.shown` is the text of a value: a text stands for itself, everything else is written out with
its brackets, the texts inside in quotes. That is done of any value; `Value.shown?` keeps to limits
on the nesting and on the digits of a whole number, which a text stays clear of.
-/

namespace SourceAtlas.Value

mutual

/-- A value written out, texts in quotes. -/
def written : Value → String
  | null => "None"
  | bool true => "True"
  | bool false => "False"
  | int i => integerText i
  | float x => plainText x
  | text s => Text.quoted s
  | bytes data => "b" ++ Text.quotedBytes data
  | list items => "[" ++ writtenItems items ++ "]"
  | tuple [item] => "(" ++ written item ++ ",)"
  | tuple items => "(" ++ writtenItems items ++ ")"
  | record entries => "\x7b" ++ writtenEntries entries ++ "\x7d"
  | file path content =>
    "SourceFile(path=" ++ written path ++ ", content=" ++ written content ++ ")"
  | moment s => s

/-- Values written out with commas between them. -/
def writtenItems : List Value → String
  | [] => ""
  | [item] => written item
  | item :: rest => written item ++ ", " ++ writtenItems rest

/-- Entries written out with commas between them. -/
def writtenEntries : List (String × Value) → String
  | [] => ""
  | [(key, v)] => Text.quoted key ++ ": " ++ written v
  | (key, v) :: rest => Text.quoted key ++ ": " ++ written v ++ ", " ++ writtenEntries rest

end

/-- The text of a value. -/
def shown : Value → String
  | text s => s
  | v => v.written

/-- What keeps a value from being written out. -/
inductive Excess where
  /-- A whole number has too many digits. -/
  | digits
  /-- The value is nested too deeply. -/
  | depth
  deriving DecidableEq, Repr

/-- One level of nesting, if one is left. -/
def nested (inner : Nat → Option Excess) : Nat → Option Excess
  | 0 => some .depth
  | depth + 1 => inner depth

mutual

/-- What keeps a value from being written out with so many digits to a whole number and so many
    levels; the first such thing counts. -/
def excess? (digits : Nat) : Value → Nat → Option Excess
  | int i, _ => if digits < (decimalText i.natAbs).length then some .digits else none
  | list items, depth | tuple items, depth => nested (excessOfItems? digits items) depth
  | record entries, depth => nested (excessOfEntries? digits entries) depth
  | file path content, depth =>
    nested (fun depth => excess? digits path depth <|> excess? digits content depth) depth
  | _, _ => none

/-- What keeps a list of values from being written out. -/
def excessOfItems? (digits : Nat) : List Value → Nat → Option Excess
  | [], _ => none
  | item :: rest, depth => excess? digits item depth <|> excessOfItems? digits rest depth

/-- What keeps entries from being written out. -/
def excessOfEntries? (digits : Nat) : List (String × Value) → Nat → Option Excess
  | [], _ => none
  | (_, v) :: rest, depth => excess? digits v depth <|> excessOfEntries? digits rest depth

end

/-- The text of a value within limits on the digits and on the nesting. A text is not limited. -/
def shown? (digits depth : Nat) (v : Value) : Except Excess String :=
  match v.excess? digits depth with
  | some e => .error e
  | none => .ok v.shown

@[simp] theorem shown?_text (digits depth : Nat) (s : String) :
    (text s).shown? digits depth = .ok s := rfl

end SourceAtlas.Value
