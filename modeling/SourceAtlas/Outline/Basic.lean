import SourceAtlas.Language.Basic
import SourceAtlas.Path
import SourceAtlas.Text.Blank

/-!
# Outlines of files

What is known about one source file: its declarations and imports in the order of their lines, its
namespace, and how many lines it has. Main type: `Outline`. The counts and scores of an outline are
whole numbers unless it says otherwise; an outline that is written by hand may have numbers of
another kind.
-/

namespace SourceAtlas

/-- A type or function that a file declares, with the lines that belong to it and the number of ways
    through them. -/
structure Declaration (ν : Type := Int) where
  name : String
  firstLine : Nat
  lastLine : Nat
  complexity : ν
  deriving DecidableEq, Repr

/-- An import: the module it names and the symbols it lists. -/
structure Import where
  target : String
  symbols : List String := []
  line : Nat := 0
  deriving DecidableEq, Repr

/-- An entry of a file's outline: a declaration or an import, with the text of its line. -/
structure Item where
  kind : String
  text : String
  firstLine : Nat
  lastLine : Nat
  attributes : List (String × String)
  deriving DecidableEq, Repr

/-- What is known about a source file. -/
structure Outline (ν : Type := Int) where
  path : String
  language : Language
  items : List Item := []
  functions : List (Declaration ν) := []
  types : List (Declaration ν) := []
  imports : List Import := []
  lineCount : ν
  commentCount : ν
  /-- The namespace that the file declares. -/
  scope : Option String := none
  /-- The file's language declares nothing, so only its lines were counted. -/
  degraded : Bool := false
  content : String := ""
  deriving DecidableEq, Repr

namespace Outline

/-- The identifier of the file's node: its path in canonical spelling. -/
def nodeId {ν : Type} (o : Outline ν) : String :=
  Path.normalize o.path

/-- The last line of the file; an empty file has one line all the same. -/
def endLine (o : Outline) : Int :=
  max o.lineCount 1

end Outline

namespace Import

/-- The name under which an import is used: its first symbol, unless that is a star or empty;
    otherwise the last segment of its module, whatever separates the segments. -/
def bareName (i : Import) : String :=
  match i.symbols with
  | first :: _ => if first = "*" ∨ first = "" then lastSegment i.target else first
  | [] => lastSegment i.target
where
  /-- What follows the last slash, then the last pair of colons, dot and colon. -/
  lastSegment (target : String) : String :=
    let cs := Text.dropEnd (· = '/') (Text.replaceChar '\\' '/' target.toList)
    .ofList ([['/'], [':', ':'], ['.'], [':']].foldl (fun cs mark => Text.afterLast mark cs) cs)

end Import

end SourceAtlas
