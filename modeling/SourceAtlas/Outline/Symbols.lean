import SourceAtlas.Text.Blank
import SourceAtlas.Text.Cut

/-!
# Symbol clauses

The clause in which an import lists symbols, such as `{ a, type b, c as d }`, is read as the list of
the names in the imported module. Main function: `symbolsOf`.
-/

namespace SourceAtlas

open Text

/-- Characters that separate or enclose the specifiers of a clause. -/
def isClauseMark (c : Char) : Bool :=
  c = ',' || c = '\x7b' || c = '\x7d' || c = '(' || c = ')'

/-- The specifier without the word `type` in front. -/
def dropTypeWord (cs : List Char) : List Char :=
  if "type ".toList.isPrefixOf cs then strip (cs.drop 5) else cs

/-- The specifier without the name it is renamed to. -/
def dropRenaming (cs : List Char) : List Char :=
  match breakOn " as ".toList cs with
  | some (before, _) => strip before
  | none => cs

/-- The name in one specifier, if there is one. A specifier that starts with `#` is a comment. -/
def symbolOf? (specifier : List Char) : Option (List Char) :=
  let cs := strip specifier
  if cs.isEmpty || cs.head? = some '#' then none
  else
    let name := dropRenaming (dropTypeWord cs)
    if name.isEmpty then none else some name

/-- The names in a clause, in order. -/
def symbolChars (clause : List Char) : List (List Char) :=
  (splitAll isClauseMark clause).filterMap symbolOf?

/-- The names in a clause, in order. -/
def symbolsOf (clause : String) : List String :=
  (symbolChars clause.toList).map .ofList

end SourceAtlas
