import SourceAtlas.Enrichment.Controller
import SourceAtlas.Proofs.Resolve.Spelling

/-! # Enrichments and the spelling of paths

    The provider is told about files by their identifiers, its answer may only
    speak of these, and the graph that is built from it looks files up by them.
    So the figures (`ofOutlines_canonical`), the request (`requestFor_canonical`)
    and the whole run (`run_canonical`) stay the same if all paths are brought into
    their canonical spelling.

    Of the imports that mean no file only their number is reported, so the run
    does not depend on their labels either (`run_relisted`). -/

namespace SourceAtlas

-- Files are compared by their identifiers, whatever these are.
attribute [local irreducible] Path.normalize

/-! ## What is said about files -/

section

variable {ν : Type} (outlines : List (Outline ν))

theorem map_nodeId_canonical :
    (outlines.map (·.canonical)).map (·.nodeId) = outlines.map (·.nodeId) := by
  rw [List.map_map]
  exact List.map_congr_left fun o _ => o.nodeId_canonical

/-- The language of a file is looked up under its identifier. -/
theorem languageTag_canonical (id : String) :
    languageTag (outlines.map (·.canonical)) id = languageTag outlines id := by
  have hsame : (fun o : Outline ν => decide (o.nodeId = id)) ∘ Outline.canonical
      = fun o => decide (o.nodeId = id) := by
    funext o
    rw [Function.comp_apply, o.nodeId_canonical]
  rw [languageTag, ← List.map_reverse, List.find?_map, hsame, Option.map_map, languageTag]
  rfl

theorem Overlay.graph_canonical (o : Overlay) :
    o.graph (outlines.map (·.canonical)) = o.graph outlines := by
  have hnode : addNode (outlines.map (·.canonical)) = addNode outlines := by
    funext g n
    rw [addNode, languageTag_canonical, addNode]
  have hedge : addEdge (outlines.map (·.canonical)) = addEdge outlines := by
    funext g e
    rw [addEdge, languageTag_canonical, languageTag_canonical, addEdge]
  rw [graph, hnode, hedge, graph]

theorem Controller.merge_canonical (c : Controller) (a : Assessment) :
    c.merge (outlines.map (·.canonical)) a = c.merge outlines a := by
  unfold merge
  simp only [Overlay.graph_canonical]

end

variable {ν : Type} [Figure ν] (outlines : List (Outline ν))

/-- The figures of a project do not depend on paths. -/
theorem ProjectStats.ofOutlines_canonical (skipped : List String) :
    ofOutlines (outlines.map (·.canonical)) skipped = ofOutlines outlines skipped := by
  have hlanguages : histogram (outlines.map (·.canonical)) = histogram outlines := List.foldl_map
  have himported : imported (outlines.map (·.canonical)) = imported outlines :=
    congrArg List.eraseDups (List.flatMap_map ..)
  have hscores : ComplexityStats.scores (outlines.map (·.canonical))
      = ComplexityStats.scores outlines := List.flatMap_map ..
  unfold ofOutlines
  rw [hlanguages, himported, hscores, List.length_map]
  simp only [List.map_map, List.flatMap_map]
  rfl

/-- A file is described under its identifier. -/
theorem Outline.requestLines_canonical (o : Outline ν) :
    o.canonical.requestLines = o.requestLines := by
  unfold requestLines
  rw [o.nodeId_canonical]
  rfl

theorem requestText_canonical (s : ProjectStats ν) (g : Graph) :
    requestText (outlines.map (·.canonical)) s g = requestText outlines s g := by
  have hlines : (outlines.map (·.canonical)).flatMap (·.requestLines)
      = outlines.flatMap (·.requestLines) := by
    rw [List.flatMap_map]
    exact List.flatMap_congr fun o _ => o.requestLines_canonical
  rw [requestText, map_nodeId_canonical, hlines, requestText]

/-! ## Figures with other lists -/

/-- The figures of a project with other labels of imports that mean no file of it, and other paths
    that were left out. -/
def ProjectStats.relisted (s : ProjectStats ν) (unresolved skipped : List String) :
    ProjectStats ν :=
  { s with unresolved, skipped }

section

variable {s : ProjectStats ν} {unresolved : List String}
  (h : unresolved.length = s.unresolved.length) (skipped : List String)

include h

/-- Only the number of the labels is reported. -/
theorem remarks_relisted : (s.relisted unresolved skipped).remarks = s.remarks := by
  have hempty : unresolved.isEmpty = s.unresolved.isEmpty := by
    rw [Bool.eq_iff_iff, List.isEmpty_iff_length_eq_zero, List.isEmpty_iff_length_eq_zero, h]
  unfold ProjectStats.remarks ProjectStats.relisted
  dsimp only
  rw [hempty, h]
  rfl

theorem localAssessment_relisted :
    localAssessment (s.relisted unresolved skipped) = localAssessment s := by
  unfold localAssessment
  rw [remarks_relisted h]
  rfl

end

/-! ## Runs -/

namespace Controller

variable (c : Controller) (l : EnrichmentLimits) (s : ProjectStats ν) (g : Graph)

theorem requestFor_canonical :
    requestFor l (outlines.map (·.canonical)) s g = requestFor l outlines s g := by
  unfold requestFor requestWithin
  rw [requestText_canonical]

/-- **THE PROVIDER DOES NOT SEE HOW PATHS ARE SPELLED**, and neither does what becomes of its
    answer. -/
theorem run_canonical (provider : Option Provider) :
    c.run l provider (outlines.map (·.canonical)) s g = c.run l provider outlines s g := by
  unfold run
  rw [requestFor_canonical, map_nodeId_canonical]
  simp only [merge_canonical]

variable {s} {unresolved : List String} (h : unresolved.length = s.unresolved.length)
  (skipped : List String)

include h

theorem fallBack_relisted (f : Failure) :
    c.fallBack (s.relisted unresolved skipped) f = c.fallBack s f := by
  unfold fallBack
  rw [localAssessment_relisted h]

/-- A run does not depend on the labels of imports that mean no file, but for their number. -/
theorem run_relisted (provider : Option Provider) :
    c.run l provider outlines (s.relisted unresolved skipped) g
      = c.run l provider outlines s g := by
  have hrequest : requestFor l outlines (s.relisted unresolved skipped) g
      = requestFor l outlines s g := rfl
  unfold run
  rw [hrequest]
  simp only [fallBack_relisted _ h]

end Controller

end SourceAtlas
