import SourceAtlas.Failure
import SourceAtlas.Graph.Basic
import SourceAtlas.Resolve.Tiers

/-!
# Resolving imports

The files of a batch become a graph: every import that means a file of the batch becomes an edge or
raises the weight of one, and the others are listed. Then files are linked that mention each other
without an import. Main function: `resolve`.
-/

namespace SourceAtlas

/-- An import that means no file of the batch. -/
structure Unresolved where
  target : String
  /-- The path of the importing file, as it was given. -/
  file : String
  deriving DecidableEq, Repr

namespace Unresolved

/-- The import in one line. -/
def label (u : Unresolved) : String := u.file ++ ": " ++ u.target

/-- The import as a failure. -/
def failure (u : Unresolved) : Failure :=
  { kind := .unresolvedImport
    message := "Unresolved import '" ++ u.target ++ "'"
    file := some u.file }

end Unresolved

/-- A graph, and the imports that it does not show. -/
structure Resolution where
  graph : Graph
  unresolved : Array Unresolved := #[]

namespace Resolution

/-- The graph without edges. -/
def start (batch : List Candidate) : Resolution where
  graph := batch.foldl (fun g c => g.addNode c.path "" c.language.tag) .empty

/-- Adds an import to the graph, or to the imports that it does not show. -/
def addImport (batch : List Candidate) (r : Resolution) (importer : Candidate) (i : Import) :
    Resolution :=
  match matchImport importer i batch with
  | some (found, link) => { r with graph := r.graph.addEdge importer.id found.id link.word }
  | none => { r with unresolved := r.unresolved.push ⟨i.target, importer.path⟩ }

/-- Adds all imports of a file. -/
def addImports (batch : List Candidate) (r : Resolution) (importer : Candidate) : Resolution :=
  importer.imports.foldl (addImport batch · importer ·) r

/-- The graph with an edge for every import of the batch. -/
def ofImports (batch : List Candidate) : Resolution :=
  batch.foldl (addImports batch) (start batch)

end Resolution

/-- How one file refers to another without an import, if it does. A namespace that both declare
    decides alone; only otherwise does the directory count, and only in Python, where a file is not
    mentioned by the name of its package. -/
def impliedLink? (source sibling : Candidate) : Option Link :=
  if sibling.language = source.language then
    if source.sharesScope sibling then
      if source.mentions sibling.stem then some .sameScope else none
    else if source.language = .python && sibling.directory = source.directory
        && sibling.stem ≠ Candidate.packageStem && source.mentions sibling.stem then
      some .sameDirectory
    else none
  else none

/-- The weight of an edge without an import. -/
def Link.impliedWeight : Link → Int
  | sameScope => 2
  | _ => 1

/-- Links one file to another if it mentions it and there is no edge yet. -/
def linkImplied (source : Candidate) (g : Graph) (sibling : Candidate) : Graph :=
  if sibling.id = source.id || g.hasEdge source.id sibling.id then g
  else match impliedLink? source sibling with
    | some link => g.addEdge source.id sibling.id link.word link.impliedWeight
    | none => g

/-- Links all files of a batch that mention each other. -/
def linkAllImplied (batch : List Candidate) (g : Graph) : Graph :=
  batch.foldl (fun g source => batch.foldl (linkImplied source) g) g

/-- The graph of a batch of files, and the imports that mean none of them. -/
def resolve {ν : Type} (outlines : List (Outline ν)) : Resolution :=
  let batch := outlines.map Candidate.ofOutline
  let r := Resolution.ofImports batch
  { r with graph := linkAllImplied batch r.graph }

/-- The labels of the imports that mean no file of the batch. -/
def Resolution.labels (r : Resolution) : List String :=
  r.unresolved.toList.map (·.label)

end SourceAtlas
