import SourceAtlas.Analysis.Input
import SourceAtlas.Enrichment.Controller
import SourceAtlas.Graph.CycleSearch
import SourceAtlas.Json.Writer
import SourceAtlas.Resolve.Basic

/-!
# The analysis of a project

    files → languages → outlines → figures → graph → cycles → enrichment

Every file is outlined on its own. A file without a language, or one that cannot be outlined, is
left out: the former are found first, the latter while the others are outlined, and they are listed
together in the order of the input. Main functions: `analyzeSources` and `analyze`, which also
checks its input.
-/

namespace SourceAtlas

/-- How a file is outlined. -/
abbrev Extractor := Language → SourceFile → Except Failure Outline

/-- The usual way to outline a file. -/
def usualExtractor : Extractor := fun l f => f.outline l

/-- What an analysis is to do. -/
structure AnalysisOptions where
  /-- The number of cycles to look for. -/
  cycleLimit : Option Nat := some usualCycleLimit
  limits : EnrichmentLimits := {}
  /-- Whether to ask a provider. -/
  enrich : Bool := false
  provider : Option Provider := none
  /-- The analysis has been cancelled before it reaches the provider. -/
  isCancelled : Bool := false
  extractor : Extractor := usualExtractor
  /-- What else goes wrong while files are outlined, by their places in the list. -/
  mishap : Nat → Option Failure := fun _ => none

/-- The result of an analysis. -/
structure Analysis where
  files : List Outline
  stats : ProjectStats
  /-- The dependencies between the files. -/
  structural : Graph
  cycles : List Cycle
  enrichment : Option EnrichmentOutcome
  /-- The requests that the provider got. -/
  requests : Array String

namespace Analysis

/-- The graph that is shown to the user. -/
def graph (a : Analysis) : Graph :=
  match a.enrichment with
  | some e => e.graph a.structural
  | none => a.structural

end Analysis

/-- A file with a language, and its place in the list. -/
structure Classified where
  place : Nat
  language : Language
  source : SourceFile
  deriving DecidableEq, Repr

/-- A file that is left out, and its place in the list. -/
structure Skip where
  place : Nat
  path : String
  deriving DecidableEq, Repr

/-- Tells the files with a language from the others. The first file has the place `place`. -/
def classifyFrom : (place : Nat) → List SourceFile → List Classified × List Skip
  | _, [] => ([], [])
  | place, f :: rest =>
    let (classified, skipped) := classifyFrom (place + 1) rest
    match Language.ofPath? f.path with
    | some l => (⟨place, l, f⟩ :: classified, skipped)
    | none => (classified, ⟨place, f.path⟩ :: skipped)

/-- The outline of a file, if nothing goes wrong. -/
def AnalysisOptions.outline (o : AnalysisOptions) (c : Classified) : Except Failure Outline :=
  match o.mishap c.place with
  | some f => .error f
  | none => o.extractor c.language c.source

/-- The outlines of files, and the files that cannot be outlined. -/
def outlineAll (outline : Classified → Except Failure Outline) :
    List Classified → List Outline × List Skip
  | [] => ([], [])
  | c :: rest =>
    let (outlines, skipped) := outlineAll outline rest
    match outline c with
    | .ok o => (o :: outlines, skipped)
    | .error _ => (outlines, ⟨c.place, c.source.path⟩ :: skipped)

/-- The paths of files that are left out, in the order of their places. -/
def pathsInOrder (skipped : List Skip) : List String :=
  (skipped.mergeSort fun a b => a.place ≤ b.place).map (·.path)

/-- The analysis up to the enrichment. -/
def analyzeStructure (o : AnalysisOptions) (sources : List SourceFile) : Analysis :=
  let (classified, unsupported) := classifyFrom 0 sources
  let (files, failed) := outlineAll o.outline classified
  let resolution := resolve files
  let stats := ProjectStats.ofOutlines files (pathsInOrder (unsupported ++ failed))
  { files
    stats := { stats with unresolved := resolution.labels }
    structural := resolution.graph
    cycles := resolution.graph.cycles o.cycleLimit
    enrichment := none
    requests := #[] }

/-- The analysis of files. -/
def analyzeSources (o : AnalysisOptions) (sources : List SourceFile) : Except Breakdown Analysis :=
  let a := analyzeStructure o sources
  if o.enrich then
    let c : Controller := { isCancelled := o.isCancelled }
    match c.run o.limits o.provider a.files a.stats a.structural with
    | (c, .ok e) => .ok { a with enrichment := some e, requests := c.requests }
    | (_, .error b) => .error b
  else .ok a

/-- Why there is no result. -/
inductive AnalysisError where
  | input (f : Failure)
  | breakdown (b : Breakdown)
  deriving DecidableEq, Repr

/-- The analysis of the files that a value lists. -/
def analyze (o : AnalysisOptions) (files : Value) : Except AnalysisError Analysis :=
  match sourcesOf files with
  | .error f => .error (.input f)
  | .ok sources =>
    match analyzeSources o sources with
    | .error b => .error (.breakdown b)
    | .ok a => .ok a

namespace Analysis

/-- An analysis in a report. -/
def report (a : Analysis) : Value :=
  .record (
    [("files", .list (a.files.map (·.report))), ("projectMetadata", a.stats.report),
      ("graph", a.graph.report), ("cycles", .list (a.cycles.map (·.report)))]
    ++ match a.enrichment with
      | some e => [("enrichment", e.assessment.report)]
      | none => [])

/-- An analysis as JSON, indented by a number of blanks or on one line. -/
def json (a : Analysis) (width : Option Nat) : String :=
  match width with
  | some width => Json.writeIndented width a.report
  | none => Json.write a.report

end Analysis

end SourceAtlas
