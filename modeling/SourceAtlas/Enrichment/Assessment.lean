import SourceAtlas.Graph.Basic
import SourceAtlas.Outline.Report

/-!
# Assessments

What a provider says about a project, or what is computed in its stead: a summary, patterns and
recommendations, two scores, and possibly a view of the architecture and a graph of its own. Main
type: `Assessment`.

`Overlay.graph` is the provider's graph as a dependency graph: files that only its edges mention are
added, and edges from a file to itself are dropped.
-/

namespace SourceAtlas

/-- How serious a finding is. -/
inductive Severity where
  | info
  | warning
  | error
  deriving DecidableEq, Repr

namespace Severity

/-- The word for a severity. -/
def word : Severity → String
  | info => "info"
  | warning => "warning"
  | error => "error"

/-- The severity with a word. -/
def ofWord? (s : String) : Option Severity :=
  [info, warning, error].find? (·.word = s)

theorem ofWord?_word (s : Severity) : ofWord? s.word = some s := by
  cases s <;> decide

end Severity

/-- A finding about the code. -/
structure Remark where
  kind : String
  name : String
  line : Nat
  description : String
  severity : Severity
  deriving DecidableEq, Repr

/-- A file in the provider's graph. -/
structure OverlayNode where
  id : String
  label : Option String
  kind : Option String
  deriving DecidableEq, Repr

/-- A dependency in the provider's graph. -/
structure OverlayEdge where
  source : String
  target : String
  kind : String
  weight : Nat
  deriving DecidableEq, Repr

/-- The provider's graph. -/
structure Overlay where
  nodes : List OverlayNode
  edges : List OverlayEdge
  deriving DecidableEq, Repr

/-- A graph without edges shows no dependencies. -/
def Overlay.isEmpty (o : Overlay) : Bool :=
  o.edges.isEmpty

/-- A view of the architecture. -/
structure Architecture where
  kind : String
  patterns : List String
  issues : List String
  deriving DecidableEq, Repr

/-- What is said about a project. -/
structure Assessment where
  summary : String
  patterns : List Remark
  recommendations : List String
  complexityScore : Float
  qualityScore : Float
  complexityFactors : List String
  architecture : Option Architecture
  overlay : Option Overlay

/-! ## The provider's graph -/

/-- The tag of the language of a file; of several files with one path, the last one counts. -/
def languageTag {ν : Type} (outlines : List (Outline ν)) (id : String) : String :=
  ((outlines.reverse.find? (·.nodeId = id)).map (·.language.tag)).getD "unknown"

namespace Overlay

/-- Adds a file. -/
def addNode {ν : Type} (outlines : List (Outline ν)) (g : Graph) (n : OverlayNode) : Graph :=
  g.addNode n.id (n.label.getD "") (languageTag outlines n.id)

/-- Adds a dependency and the files it mentions. -/
def addEdge {ν : Type} (outlines : List (Outline ν)) (g : Graph) (e : OverlayEdge) : Graph :=
  let g := g.addNode e.source "" (languageTag outlines e.source)
  let g := g.addNode e.target "" (languageTag outlines e.target)
  g.addEdge e.source e.target e.kind e.weight

/-- The dependency graph that an overlay describes. -/
def graph {ν : Type} (o : Overlay) (outlines : List (Outline ν)) : Graph :=
  let g := o.nodes.foldl (addNode outlines) .empty
  o.edges.foldl (addEdge outlines) g

end Overlay

/-! ## In reports -/

/-- A finding in a report. -/
def Remark.report (r : Remark) : Value :=
  .record [("type", .text r.kind), ("name", .text r.name), ("line", .nat r.line),
    ("description", .text r.description), ("severity", .text r.severity.word)]

/-- A file of the provider's graph in a report. -/
def OverlayNode.report (n : OverlayNode) : Value :=
  .record [("id", .text n.id), ("label", .textOrNull n.label), ("type", .textOrNull n.kind)]

/-- A dependency of the provider's graph in a report. -/
def OverlayEdge.report (e : OverlayEdge) : Value :=
  .record [("source", .text e.source), ("target", .text e.target), ("kind", .text e.kind),
    ("weight", .nat e.weight)]

/-- The provider's graph in a report. -/
def Overlay.report (o : Overlay) : Value :=
  .record [("nodes", .list (o.nodes.map (·.report))), ("edges", .list (o.edges.map (·.report)))]

/-- A view of the architecture in a report. -/
def Architecture.report (a : Architecture) : Value :=
  .record [("type", .text a.kind), ("patterns", .texts a.patterns), ("issues", .texts a.issues)]

/-- An assessment in a report. -/
def Assessment.report (a : Assessment) : Value :=
  .record [("summary", .text a.summary), ("patterns", .list (a.patterns.map (·.report))),
    ("recommendations", .texts a.recommendations), ("complexityScore", .float a.complexityScore),
    ("qualityScore", .float a.qualityScore), ("complexityFactors", .texts a.complexityFactors),
    ("architecture", (a.architecture.map (·.report)).getD .null),
    ("graphOverlay", (a.overlay.map (·.report)).getD .null)]

end SourceAtlas
