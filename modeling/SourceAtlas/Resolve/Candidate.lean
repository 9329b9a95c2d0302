import SourceAtlas.Resolve.Keys
import SourceAtlas.Text.Word

/-!
# Candidates

A file as it is seen by the imports of other files: the names by which it can be imported.
-/

namespace SourceAtlas

/-- A file with the names by which it can be imported. -/
structure Candidate where
  /-- The path, as it was given. -/
  path : String
  language : Language
  imports : List Import
  content : String
  /-- The identifier of the file's node. -/
  id : String
  /-- The path without its extension; for the file that stands for a package, the package. -/
  key : List Char
  /-- The name of the file without its extension. -/
  stem : List Char
  directory : String
  /-- The key of the file's namespace, if it has one. -/
  scope : Option String

namespace Candidate

/-- The name of the file that stands for its package. -/
def packageStem : List Char := "__init__".toList

/-- The key of a path. -/
def keyOf (id : List Char) : List Char :=
  let key := (Path.splitExtensionChars id).1
  if Path.baseChars key = packageStem then Path.parentChars key else key

/-- The candidate for a file. An empty namespace counts as none. -/
def ofOutline {ν : Type} (o : Outline ν) : Candidate :=
  let id := o.nodeId
  { path := o.path, language := o.language, imports := o.imports, content := o.content, id
    key := keyOf id.toList
    stem := (Path.splitExtensionChars (Path.baseChars id.toList)).1
    directory := Path.parent id
    scope := (o.scope.filter (!·.isEmpty)).map namespaceKey }

/-- The two files declare the same namespace. -/
def sharesScope (c d : Candidate) : Bool :=
  c.scope.isSome && d.scope = c.scope

/-- The file's content has a name as a whole word. -/
def mentions (c : Candidate) (name : List Char) : Bool :=
  Text.isIdentifier name && Text.mentions c.content.toList name

end Candidate

end SourceAtlas
