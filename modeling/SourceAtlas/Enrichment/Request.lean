import SourceAtlas.Graph.Basic
import SourceAtlas.Stats.Basic

/-!
# The request to a provider

The structural analysis of a project as one text: its figures, its files and what they declare, and
the dependencies between them. Main functions: `requestText` and `requestWithin`, which cuts the
text at a limit and marks the cut.
-/

namespace SourceAtlas

/-- The number of names that are listed. -/
def namesShown : Nat := 25

/-- Names in one line, the first of them listed and the rest counted; a hyphen if there is nothing
    to list. -/
def namesLine (names : List String) : String :=
  let shown := ", ".intercalate (names.take namesShown)
  let shown :=
    if namesShown < names.length then
      shown ++ ", ... (+" ++ decimalText (names.length - namesShown) ++ ")"
    else shown
  if shown.isEmpty then "-" else shown

variable {ν : Type} [Figure ν]

/-- The figures of a project. -/
def ProjectStats.requestLines (s : ProjectStats ν) : List String :=
  ["Project Summary:",
    "Files: " ++ Figure.text s.fileCount,
    "Total Lines: " ++ Figure.text s.lineCount,
    "Functions: " ++ Figure.text s.functionCount,
    "Types: " ++ Figure.text s.typeCount,
    "Languages: " ++ (if s.languageNames.isEmpty then "-" else s.languageNames),
    "Dependencies: " ++ decimalText s.dependencies.length,
    "Average Complexity: " ++ s.complexity.average.text]

/-- What a file declares. -/
def Outline.requestLines (o : Outline ν) : List String :=
  let scope := match o.scope with
    | none | some "" => ""
    | some scope => ", namespace " ++ scope
  [o.nodeId ++ " [" ++ o.language.tag ++ ", " ++ Figure.text o.lineCount ++ " lines" ++ scope
      ++ "]",
    "  types: " ++ namesLine (o.types.map (·.name)),
    "  functions: " ++ namesLine (o.functions.map (·.name)),
    "  imports: " ++ namesLine (o.imports.map (·.target))]

/-- The dependencies of a graph. -/
def Graph.requestLines (g : Graph) : List String :=
  if g.edges.isEmpty then ["None detected yet"]
  else g.edges.toList.map fun e => e.source ++ " -> " ++ e.target ++ " (" ++ e.kind ++ ")"

/-- What the provider is asked to do. -/
def taskLines : List String := [
  "TASK:",
  "1. Provide an architectural summary.",
  "2. Identify design patterns and risks.",
  "3. Return a graphOverlay of the real dependencies between these files,",
  "   using the detected relationships as a baseline. Use only paths from the File List."]

/-- The request for a project. -/
def requestText (outlines : List (Outline ν)) (s : ProjectStats ν) (g : Graph) : String :=
  "\n".intercalate
    (s.requestLines ++ ["", "File List:"] ++ outlines.map (·.nodeId)
      ++ ["", "File Structure:"] ++ outlines.flatMap (·.requestLines)
      ++ ["", "Detected AST Relationships:"] ++ g.requestLines
      ++ [""] ++ taskLines)

/-- The length of a request unless told otherwise. -/
def usualRequestLimit : Nat := 20000

/-- What follows a text that was cut. -/
def cutMark : String := "\n... [truncated]"

/-- The first characters of a text. A negative number counts from the end. -/
def firstChars (n : Int) (cs : List Char) : List Char :=
  if 0 ≤ n then cs.take n.toNat else cs.take (cs.length - n.natAbs)

/-- The text, cut if it is longer than a limit. -/
def cutAt (limit : Int) (text : String) : String :=
  let cs := text.toList
  if limit < cs.length then .ofList (firstChars limit cs) ++ cutMark else text

/-- The request for a project, cut if it is longer than a limit. -/
def requestWithin (limit : Int) (outlines : List (Outline ν)) (s : ProjectStats ν) (g : Graph) :
    String :=
  cutAt limit (requestText outlines s g)

end SourceAtlas
