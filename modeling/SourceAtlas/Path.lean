import SourceAtlas.Text.Blank
import SourceAtlas.Text.Cut

/-!
# Paths

File paths as texts with slashes. `Path.normalize` gives every spelling of a path its canonical
form, the identifier of the file's node: backslashes become slashes and leading `./` are dropped.
`base`, `parent` and `splitExtension` take a path apart at its last slash and last dot.
-/

namespace SourceAtlas.Path

open Text

/-- Drops every leading `./`. -/
def dropHere : List Char → List Char
  | '.' :: '/' :: rest => dropHere rest
  | cs => cs

/-- The canonical spelling of a path, as characters. -/
def normalizeChars (cs : List Char) : List Char :=
  dropHere (replaceChar '\\' '/' cs)

/-- The canonical spelling of a path: slashes only, and no `./` in front. -/
def normalize (path : String) : String :=
  .ofList (normalizeChars path.toList)

/-- What follows the last slash. -/
def baseChars (cs : List Char) : List Char :=
  match splitLast '/' cs with
  | some (_, after) => after
  | none => cs

/-- The last component of a path. -/
def base (path : String) : String :=
  .ofList (baseChars path.toList)

/-- What stands before the last slash, without the slashes at its end; slashes alone are kept. -/
def parentChars (cs : List Char) : List Char :=
  match splitLast '/' cs with
  | none => []
  | some (before, _) =>
    if before.all (· = '/') then before ++ ['/'] else dropEnd (· = '/') before

/-- The directory of a path, empty for a bare file name. -/
def parent (path : String) : String :=
  .ofList (parentChars path.toList)

/-- Cuts the last component of a path before its last dot; dots in front of the component do not
    count. Without such a dot the extension is empty. -/
def splitExtensionChars (cs : List Char) : List Char × List Char :=
  let name := baseChars cs
  let dots := name.takeWhile (· = '.')
  let directory := cs.take (cs.length - name.length)
  match splitLast '.' (name.dropWhile (· = '.')) with
  | some (before, after) => (directory ++ dots ++ before, '.' :: after)
  | none => (cs, [])

/-- The path without its extension. -/
def withoutExtension (path : String) : String :=
  .ofList (splitExtensionChars path.toList).1

/-- The extension with its dot, or nothing. -/
def extension (path : String) : String :=
  .ofList (splitExtensionChars path.toList).2

end SourceAtlas.Path
