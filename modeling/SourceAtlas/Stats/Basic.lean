import SourceAtlas.Outline.Report
import SourceAtlas.Value.Number

/-!
# Figures about a project

The outlines of all files are folded into totals, a histogram of languages, the list of imported
modules and the spread of complexities. Nothing but the order of the modules depends on the order
of the files. Main function: `ProjectStats.ofOutlines`.
-/

namespace SourceAtlas

/-- The spread of complexities. -/
structure ComplexityStats (ν : Type := Int) where
  average : Number
  highest : ν
  lowest : ν

/-- What is known about a project as a whole. -/
structure ProjectStats (ν : Type := Int) where
  fileCount : ν
  lineCount : ν
  commentCount : ν
  functionCount : ν
  typeCount : ν
  /-- The tags of the languages, with the number of files in each. -/
  languages : List (String × ν) := []
  /-- The modules that are imported. -/
  dependencies : List String := []
  /-- The labels of the imports that mean no file of the project. -/
  unresolved : List String := []
  complexity : ComplexityStats ν
  /-- The paths of the files that were left out. -/
  skipped : List String := []

variable {ν : Type} [Figure ν]

namespace ComplexityStats

/-- The average of several scores, if it is not too large. -/
def average? (scores : List ν) : Option Float :=
  (Number.sum? (scores.map Figure.number)).bind (·.dividedBy? scores.length)

/-- The average, the highest and the lowest of several scores, zeros if there are none. The average
    has two places after the point; it is infinite if it is too large. -/
def ofScores : List ν → ComplexityStats ν
  | [] => ⟨.real 0.0, Figure.ofNat 0, Figure.ofNat 0⟩
  | first :: rest =>
    { average := .real (roundPlaces 2 ((average? (first :: rest)).getD (1.0 / 0.0)))
      highest := Figure.highest first rest
      lowest := Figure.lowest first rest }

/-- The complexities of all functions. -/
def scores (outlines : List (Outline ν)) : List ν :=
  outlines.flatMap fun o => o.functions.map (·.complexity)

/-- The spread of complexities in a report. -/
def report (c : ComplexityStats ν) : Value :=
  .record [("average", c.average.value), ("highest", Figure.value c.highest),
    ("lowest", Figure.value c.lowest)]

end ComplexityStats

namespace ProjectStats

/-- Counts a tag in a histogram that is sorted by tags. -/
def countTag (tag : String) : List (String × Nat) → List (String × Nat)
  | [] => [(tag, 1)]
  | (t, n) :: rest =>
    if tag = t then (t, n + 1) :: rest
    else if tag < t then (tag, 1) :: (t, n) :: rest
    else (t, n) :: countTag tag rest

/-- The histogram of languages, sorted by tags. -/
def histogram (outlines : List (Outline ν)) : List (String × Nat) :=
  outlines.foldl (fun h o => countTag o.language.tag h) []

/-- The imported modules, each where it occurs first. -/
def imported (outlines : List (Outline ν)) : List String :=
  (outlines.flatMap fun o => o.imports.map (·.target)).eraseDups

/-- The figures of a project. -/
def ofOutlines (outlines : List (Outline ν)) (skipped : List String := []) : ProjectStats ν where
  fileCount := Figure.ofNat outlines.length
  lineCount := Figure.total (outlines.map (·.lineCount))
  commentCount := Figure.total (outlines.map (·.commentCount))
  functionCount := Figure.ofNat (outlines.flatMap (·.functions)).length
  typeCount := Figure.ofNat (outlines.flatMap (·.types)).length
  languages := (histogram outlines).map fun (tag, n) => (tag, Figure.ofNat n)
  dependencies := imported outlines
  complexity := .ofScores (ComplexityStats.scores outlines)
  skipped

/-- The figures of a project, if no sum and no average is too large for a floating-point number. -/
def ofOutlines? (outlines : List (Outline ν)) (skipped : List String := []) :
    Option (ProjectStats ν) :=
  let isSummable (count : Outline ν → ν) : Bool :=
    (Number.sum? (outlines.map fun o => Figure.number (count o))).isSome
  let scores := ComplexityStats.scores outlines
  if isSummable (·.lineCount) && isSummable (·.commentCount)
      && (scores.isEmpty || (ComplexityStats.average? scores).isSome) then
    some (ofOutlines outlines skipped)
  else none

/-- The languages with their counts, as a list in words. -/
def languageNames (s : ProjectStats ν) : String :=
  ", ".intercalate (s.languages.map fun (tag, n) => tag ++ " (" ++ Figure.text n ++ ")")

/-- The figures in a report. -/
def report (s : ProjectStats ν) : Value :=
  .record [("totalFiles", Figure.value s.fileCount), ("totalLines", Figure.value s.lineCount),
    ("totalCommentLines", Figure.value s.commentCount),
    ("totalFunctions", Figure.value s.functionCount), ("totalTypes", Figure.value s.typeCount),
    ("languages", .record (s.languages.map fun (tag, n) => (tag, Figure.value n))),
    ("dependencies", .texts s.dependencies), ("unresolvedImports", .texts s.unresolved),
    ("complexity", s.complexity.report), ("skippedFiles", .texts s.skipped)]

end ProjectStats

end SourceAtlas
