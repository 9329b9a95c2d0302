import SourceAtlas.Analysis.Input
import SourceAtlas.Command.PathText

/-!
# The files that a command sees

A workspace is a tree of files, of which one directory is the working directory. A place in the tree
is the list of names that lead to it from the root. `Workspace.find` follows a path as the user
spells it, `Workspace.filesUnder` lists the files below a place, and `Workspace.target` finds the
place where a file can be written, or says why there is none.
-/

namespace SourceAtlas

/-- The names that lead from the root to a file or directory. -/
abbrev Place := List String

/-- A tree of files. -/
structure Workspace where
  /-- The working directory. -/
  here : Place := []
  files : List (Place × Content) := []
  /-- Directories, at least those without files in them. -/
  directories : List Place := []

/-- Why a file cannot be written. -/
inductive Obstacle where
  /-- Its directory is a file. -/
  | occupied
  /-- Something on the way to its directory is a file. -/
  | notDirectory
  /-- It is a directory itself. -/
  | isDirectory
  /-- Its path is too long, or a name in it is. -/
  | tooLong
  deriving DecidableEq, Repr

namespace Workspace

/-- The content of a file. -/
def content? (w : Workspace) (p : Place) : Option Content :=
  w.files.lookup p

/-- There is a file at a place. -/
def isFile (w : Workspace) (p : Place) : Bool :=
  (w.content? p).isSome

/-- There is a directory at a place: the root, a directory by itself, or one on the way to a file or
    directory. -/
def isDirectory (w : Workspace) (p : Place) : Bool :=
  p.isEmpty || p.isPrefixOf w.here || w.directories.any (p.isPrefixOf ·)
    || w.files.any fun (q, _) => p.length < q.length && p.isPrefixOf q

/-- Where a path starts. -/
def start (w : Workspace) (path : String) : Place :=
  if path.toList.head? = some '/' then [] else w.here

/-- The place after one more component of a path. -/
def enter (p : Place) (name : String) : Place :=
  if name = "" || name = "." then p
  else if name = ".." then p.dropLast
  else p ++ [name]

/-- The place that a path means, whether there is anything or not. -/
def place (w : Workspace) (path : String) : Place :=
  (pathComponents path).foldl enter (w.start path)

/-- Follows the components of a path; all but the last place must be directories. -/
def follow (w : Workspace) (p : Place) : List String → Except PathFault (Option Place)
  | [] => .ok (if w.isFile p || w.isDirectory p then some p else none)
  | name :: rest =>
    if !w.isDirectory p then .ok none
    else if longestName < pathSize name then .error .tooLong
    else w.follow (enter p name) rest

/-- The place of the file or directory at a path, if there is one. -/
def find (w : Workspace) (path : String) : Except PathFault (Option Place) :=
  match spellingFault? path with
  | some fault => .error fault
  | none =>
    if path.isEmpty then .ok none
    else if longestPath < pathSize path then .error .tooLong
    else w.follow (w.start path) (pathComponents path)

/-- The content of the file at a path, if there is one. -/
def read (w : Workspace) (path : String) : Except PathFault (Option Content) :=
  (w.find path).map (·.bind w.content?)

/-- The files below a place with the names that lead to them, sorted name by name. -/
def filesUnder (w : Workspace) (p : Place) : List (Place × Content) :=
  let below := w.files.filterMap fun (q, content) =>
    if p.isPrefixOf q && p.length < q.length then some (q.drop p.length, content) else none
  below.mergeSort fun a b => !decide (b.1 < a.1)

/-- Goes into the directories of a path, each of which is there or can be made. -/
def enterDirectories (w : Workspace) (p : Place) : List String → Except Obstacle Place
  | [] => if w.isFile p then .error .occupied else .ok p
  | name :: rest =>
    if w.isFile p then .error .notDirectory
    else if longestName < pathSize name then .error .tooLong
    else w.enterDirectories (enter p name) rest

/-- The place where the file at a path can be written. Missing directories are no obstacle. -/
def target (w : Workspace) (path : String) : Except Obstacle Place := do
  if longestPath < pathSize path then throw .tooLong
  let names := pathComponents path
  let name := names.getLast?.getD ""
  let place := enter (← w.enterDirectories (w.start path) names.dropLast) name
  if longestName < pathSize name then throw .tooLong
  if w.isDirectory place then throw .isDirectory
  return place

end Workspace

end SourceAtlas
