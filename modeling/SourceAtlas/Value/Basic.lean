/-!
# Values of any kind

What comes in from outside before its shape is known: entries of a file list, settings, answers of
a provider, JSON and TOML documents. `Value` holds all of these; the readers of the other modules
turn a value into a type of the domain or say why they cannot.
-/

namespace SourceAtlas

/-- A value of any kind. -/
inductive Value where
  | null
  | bool (b : Bool)
  | int (i : Int)
  | float (x : Float)
  /-- A text, which may hold halves of surrogate pairs. -/
  | text (s : String)
  | bytes (data : List UInt8)
  | list (items : List Value)
  | tuple (items : List Value)
  /-- Named entries in order; no name occurs twice. -/
  | record (entries : List (String × Value))
  /-- A source file, with a path and a content that need not be valid. -/
  | file (path content : Value)
  /-- A date or a time of day, as it was written. -/
  | moment (written : String)

instance : Inhabited Value := ⟨.null⟩

namespace Value

/-- The name of a value's kind. -/
def kind : Value → String
  | null => "NoneType"
  | bool _ => "bool"
  | int _ => "int"
  | float _ => "float"
  | text _ => "str"
  | bytes _ => "bytes"
  | list _ => "list"
  | tuple _ => "tuple"
  | record _ => "dict"
  | file _ _ => "SourceFile"
  | moment _ => "datetime"

/-- Whether a value counts as missing where a default stands in for it: nothing, zero, and whatever
    is empty. -/
def isVoid : Value → Bool
  | null => true
  | bool b => !b
  | int i => i = 0
  | float x => x == 0.0
  | text s => s.isEmpty
  | bytes data => data.isEmpty
  | list items | tuple items => items.isEmpty
  | record entries => entries.isEmpty
  | file _ _ | moment _ => false

mutual

/-- How deep values are nested in a value. -/
def depth : Value → Nat
  | list items | tuple items => itemsDepth items + 1
  | record entries => entriesDepth entries + 1
  | file path content => max path.depth content.depth + 1
  | _ => 0

/-- The greatest depth of several values. -/
def itemsDepth : List Value → Nat
  | [] => 0
  | v :: rest => max v.depth (itemsDepth rest)

/-- The greatest depth of the values of several entries. -/
def entriesDepth : List (String × Value) → Nat
  | [] => 0
  | (_, v) :: rest => max v.depth (entriesDepth rest)

end

/-- The value, or a default if it is missing. -/
def orElse (v default : Value) : Value :=
  if v.isVoid then default else v

/-- The entry of a record under a name. -/
def get? (v : Value) (key : String) : Option Value :=
  match v with
  | record entries => entries.lookup key
  | _ => none

/-- The items of a value that has any: of a list, the characters of a text, the numbers of bytes,
    the names of a record. -/
def items? : Value → Option (List Value)
  | list items | tuple items => some items
  | text s => some (s.toList.map fun c => text (.singleton c))
  | bytes data => some (data.map fun b => int b.toNat)
  | record entries => some (entries.map fun (key, _) => text key)
  | _ => none

/-- The text of a value that is one. -/
def text? : Value → Option String
  | text s => some s
  | _ => none

/-- A natural number as a value. -/
def nat (n : Nat) : Value := .int n

/-- A list of texts as a value. -/
def texts (items : List String) : Value := .list (items.map .text)

/-- A text that may be missing, as a value. -/
def textOrNull (s : Option String) : Value := (s.map Value.text).getD .null

end Value

/-- Entries of a record, in order. -/
abbrev Entries := List (String × Value)

namespace Entries

/-- Gives a name its value: an entry that is there is replaced where it stands, any other is added
    at the end. -/
def insert (entries : Entries) (key : String) (v : Value) : Entries :=
  match entries with
  | [] => [(key, v)]
  | (k, old) :: rest => if k = key then (k, v) :: rest else (k, old) :: insert rest key v

/-- Adds an entry only if its name is free. -/
def insertIfNew (entries : Entries) (key : String) (v : Value) : Entries :=
  if (entries.lookup key).isSome then entries else entries.insert key v

/-- The entries without those under a name. -/
def erase (entries : Entries) (key : String) : Entries :=
  entries.filter (·.1 ≠ key)

end Entries

end SourceAtlas
