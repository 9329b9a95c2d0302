import SourceAtlas.Enrichment.Assessment
import SourceAtlas.Stats.Basic

/-!
# Local assessments

An assessment that is computed from the figures of a project alone and takes the place of a
provider's answer. Main function: `localAssessment`.
-/

namespace SourceAtlas

/-- Why there is no assessment with these figures. -/
inductive FigureError where
  /-- A figure is too large for a floating-point number. -/
  | tooLarge
  /-- The complexity is below zero or not a number. -/
  | outOfBounds
  deriving DecidableEq, Repr

namespace Number

/-- Ten times the number, rounded to two places after the point. -/
def tenfold (n : Number) : Number :=
  match n with
  | real x => real (roundPlaces 2 (x * 10.0))
  | n => whole (n.whole?.getD 0 * 10)

/-- The number with one place after the point. -/
def tenths (n : Number) : String :=
  tenthsText n.toFloat

end Number

variable {ν : Type} [Figure ν]

/-- How far a score falls short of a hundred, from zero to a hundred. -/
def shortOfHundred (score : Float) : Float :=
  let rest := 100.0 - score
  let rest := if 0.0 < rest then rest else 0.0
  roundPlaces 2 (if rest < 100.0 then rest else 100.0)

namespace ProjectStats

/-- The score of the complexity: ten times the average. -/
def complexityScore (s : ProjectStats ν) : Float :=
  s.complexity.average.tenfold.toFloat

/-- The project counts as complex. -/
def isComplex (s : ProjectStats ν) : Bool :=
  50.0 < s.complexityScore

/-- The summary of a project. -/
def summary (s : ProjectStats ν) : String :=
  "Project analysis shows " ++ Figure.text s.fileCount ++ " files across "
    ++ decimalText s.languages.length ++ " languages with " ++ Figure.text s.functionCount
    ++ " functions and " ++ Figure.text s.typeCount ++ " types. Average function complexity is "
    ++ s.complexity.average.tenths ++ ". Languages: "
    ++ (if s.languages.isEmpty then "none" else s.languageNames) ++ "."

/-- The findings about a project. -/
def remarks (s : ProjectStats ν) : List Remark :=
  [{ kind := "project"
     name := if 1 < s.languages.length then "Multi-language Support" else "Single-language Project"
     line := 1
     description :=
      "Project uses " ++ decimalText s.languages.length ++ " different programming languages"
     severity := .info }]
    ++ (if s.isComplex then
      [{ kind := "complexity", name := "High Average Complexity", line := 1
         description := "Highest function complexity is " ++ Figure.text s.complexity.highest
         severity := .warning }]
    else [])
    ++ (if s.unresolved.isEmpty then []
    else
      [{ kind := "dependency", name := "External Dependencies", line := 1
         description := decimalText s.unresolved.length
          ++ " imports do not resolve to files of the project"
         severity := .info }])

/-- The recommendations for a project. -/
def recommendations (s : ProjectStats ν) : List String :=
  ["Consider standardizing coding patterns across languages",
    "Review dependency usage and consider consolidation"]
    ++ (if s.isComplex then ["Refactor the most complex functions into smaller units"] else [])

/-- Half the number of functions as a floating-point number, if it is not too large. -/
def halfOfFunctions? (s : ProjectStats ν) : Option Float :=
  (Figure.number s.functionCount).dividedBy? 2

/-- There are more than half as many types as functions. -/
def hasManyTypes (s : ProjectStats ν) : Bool :=
  s.halfOfFunctions?.any fun half => (Number.real half).isBelow (Figure.number s.typeCount)

/-- The view of the architecture. -/
def architecture (s : ProjectStats ν) : Architecture where
  kind := if s.hasManyTypes then "Object-oriented" else "Mixed"
  patterns :=
    if (Number.whole 0).isBelow (Figure.number s.typeCount) then ["Class-based components"]
    else ["Function-based modules"]
  issues := if s.isComplex then ["High average complexity"] else []

end ProjectStats

/-- The assessment of a project from its figures. There is none if the average complexity is below
    zero or not a number, or if it or the number of functions is too large. -/
def localAssessment (s : ProjectStats ν) : Except FigureError Assessment :=
  if s.complexity.average.tenfold.float?.isNone || s.halfOfFunctions?.isNone then
    .error .tooLarge
  else if 0.0 ≤ s.complexityScore then
    .ok {
      summary := s.summary
      patterns := s.remarks
      recommendations := s.recommendations
      complexityScore := s.complexityScore
      qualityScore := shortOfHundred s.complexityScore
      complexityFactors := ["Average complexity: " ++ s.complexity.average.tenths,
        "Total functions: " ++ Figure.text s.functionCount,
        "Total lines: " ++ Figure.text s.lineCount]
      architecture := some s.architecture
      overlay := none }
  else .error .outOfBounds

end SourceAtlas
