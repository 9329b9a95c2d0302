import SourceAtlas.Proofs.Analysis.Enriched
import SourceAtlas.Proofs.Resolve.Accounting

/-! # Relationships that an answer shows

    A run that uses an answer shows its graph if the answer lists any edges
    (`Overlay.isEmpty`), and otherwise the structural graph.  An edge from a file
    to itself is no relationship and is dropped while the graph is built, so the
    graph has an edge exactly if the answer relates two different files
    (`Overlay.edges_graph_eq_empty_iff`).

    The two tests differ in answers whose edges all lead from a file to itself:
    their graphs are shown and have no edges, whatever the structural graph has
    (`keepsUnrelated_iff`, `not_keepsUnrelated_loop`). -/

namespace SourceAtlas

section

variable {ν : Type} {outlines : List (Outline ν)} {o : Overlay}

/-- A graph relates two different files. -/
def Overlay.Relates (o : Overlay) : Prop :=
  ∃ e ∈ o.edges, e.source ≠ e.target

/-- All edges of a graph, of which there are some, lead from a file to itself. -/
def Overlay.Loops (o : Overlay) : Prop :=
  o.edges ≠ [] ∧ ∀ e ∈ o.edges, e.source = e.target

theorem Overlay.not_relates_iff : ¬ o.Relates ↔ ∀ e ∈ o.edges, e.source = e.target := by
  simp only [Relates, ne_eq, not_exists, not_and, not_not]

/-- A graph that relates no files and does not loop has no edges. -/
theorem Overlay.edges_eq_nil (hrelates : ¬ o.Relates) (hloops : ¬ o.Loops) : o.edges = [] := by
  by_contra hedges
  exact hloops ⟨hedges, not_relates_iff.mp hrelates⟩

/-- **EDGES OF A BUILT GRAPH**: it has none exactly if no two different files are related. -/
theorem Overlay.edges_graph_eq_empty_iff (hcanonical : ∀ p ∈ o.mentions, Path.normalize p = p) :
    (o.graph outlines).edges = #[] ↔ ¬ o.Relates := by
  have hdrawn := Drawn.graph outlines hcanonical
  generalize o.graph outlines = g at hdrawn
  rw [← Array.toList_eq_nil_iff, List.eq_nil_iff_forall_not_mem]
  constructor
  · rintro hnone ⟨e, he, hproper⟩
    have hasked : e.ends ∈ (weightsOf o.edges).map (·.1) :=
      (mem_ends_weightsOf o.edges e.ends).mpr ⟨hproper, e, he, rfl⟩
    obtain ⟨drawn, hin, -⟩ := (hdrawn.weights.mem_iff e.ends).mp hasked
    exact hnone drawn hin
  · intro hrelates drawn hin
    have hasked := (hdrawn.weights.mem_iff drawn.ends).mpr ⟨drawn, hin, rfl⟩
    obtain ⟨hproper, e, he, hends⟩ := (mem_ends_weightsOf o.edges drawn.ends).mp hasked
    rw [← hends] at hproper
    exact hrelates ⟨e, he, hproper⟩

end

/-! ## What a run shows -/

/-- An answer that relates no two different files leaves the structural graph in its place. -/
def EnrichmentOutcome.KeepsUnrelated (e : EnrichmentOutcome) : Prop :=
  (∀ o, e.assessment.overlay = some o → ¬ o.Relates) → e.overlay = none

/-- A graph that takes the place of the structural graph has an edge. -/
def EnrichmentOutcome.ShowsEdges (e : EnrichmentOutcome) : Prop :=
  ∀ g, e.overlay = some g → g.edges ≠ #[]

/-- The graph of an answer is shown exactly if it lists an edge. -/
theorem EnrichmentOutcome.overlay_eq_some_iff {ν : Type} {outlines : List (Outline ν)}
    {e : EnrichmentOutcome} (h : e.HasEnded outlines) (hmerged : e.phase = .merged)
    {shown : Graph} :
    e.overlay = some shown
      ↔ ∃ o, e.assessment.overlay = some o ∧ o.edges ≠ [] ∧ o.graph outlines = shown := by
  rcases h with ⟨hfallback, -⟩ | ⟨-, heq⟩
  · exact nomatch hfallback.symm.trans hmerged
  · rw [heq, Option.map_eq_some_iff]
    refine exists_congr fun o => ?_
    rw [Option.filter_eq_some_iff, Overlay.isEmpty, Bool.not_eq_true', List.isEmpty_eq_false_iff,
      and_assoc]

section

variable {ν : Type} [Figure ν] {c : Controller} {l : EnrichmentLimits}
  {provider : Option Provider} {outlines : List (Outline ν)} {s : ProjectStats ν} {g : Graph}
  {e : EnrichmentOutcome}

/-- A run that uses an answer has read it. -/
theorem Controller.exists_answer_of_run (h : (c.run l provider outlines s g).2 = .ok e)
    (hmerged : e.phase = .merged) :
    ∃ answer, readAnswer l.reader (outlines.map (·.nodeId)) answer = .ok e.assessment := by
  have hfall : ∀ {c' : Controller} {f : Failure}, (c'.fallBack s f).2 ≠ .ok e :=
    fun hf => nomatch (fallback_of_fallBack hf).1.symm.trans hmerged
  have hcourse := run_course c l provider outlines s g
  generalize c.run l provider outlines s g = r at hcourse h
  cases hcourse with
  | unwritten => exact nomatch h
  | cutShort => exact nomatch h
  | unanswered => exact absurd h hfall
  | unreadable => exact nomatch h
  | rejected => exact absurd h hfall
  | accepted _ _ hread =>
      obtain rfl := Except.ok.inj h
      exact ⟨_, hread⟩

/-- The graph of an answer that was used speaks of canonical paths only. -/
theorem Controller.canonical_of_run (h : (c.run l provider outlines s g).2 = .ok e)
    (hmerged : e.phase = .merged) {o : Overlay} (ho : e.assessment.overlay = some o) :
    ∀ p ∈ o.mentions, Path.normalize p = p := by
  obtain ⟨answer, hread⟩ := exists_answer_of_run h hmerged
  have hwithin := isWithin_of_readAnswer hread
  rw [Assessment.isWithin, ho] at hwithin
  intro p hp
  obtain ⟨f, -, rfl⟩ := List.mem_map.mp (Overlay.isWithin_iff.mp hwithin p hp)
  exact Path.normalize_normalize f.path

/-- **RELATIONSHIPS**: after a run that uses an answer, the structural graph is shown exactly if the
    answer lists no edges.  Any other graph that is shown is the one that is built from the answer,
    and it has an edge exactly if the answer relates two different files.  So an answer without
    relationships keeps the structural graph, and a graph in its place has an edge, exactly if the
    edges of the answer do not all lead from a file to itself. -/
theorem keepsUnrelated_iff (h : (c.run l provider outlines s g).2 = .ok e)
    (hmerged : e.phase = .merged) :
    (e.overlay = none ↔ ∀ o, e.assessment.overlay = some o → o.edges = [])
    ∧ (∀ shown, e.overlay = some shown → ∃ o, e.assessment.overlay = some o
      ∧ o.graph outlines = shown ∧ (shown.edges ≠ #[] ↔ o.Relates))
    ∧ (e.KeepsUnrelated ↔ ∀ o, e.assessment.overlay = some o → ¬ o.Loops)
    ∧ (e.ShowsEdges ↔ ∀ o, e.assessment.overlay = some o → ¬ o.Loops) := by
  have hshown : ∀ {shown : Graph}, e.overlay = some shown ↔ ∃ o, e.assessment.overlay = some o
      ∧ o.edges ≠ [] ∧ o.graph outlines = shown :=
    EnrichmentOutcome.overlay_eq_some_iff (Controller.hasEnded_of_run h) hmerged
  have hnone : e.overlay = none ↔ ∀ o, e.assessment.overlay = some o → o.edges = [] := by
    rw [Option.eq_none_iff_forall_ne_some]
    constructor
    · intro hall o ho
      by_contra hedges
      exact hall _ (hshown.mpr ⟨o, ho, hedges, rfl⟩)
    · intro hall shown hsome
      obtain ⟨o, ho, hedges, -⟩ := hshown.mp hsome
      exact hedges (hall o ho)
  have hrelates : ∀ o, e.assessment.overlay = some o →
      ((o.graph outlines).edges ≠ #[] ↔ o.Relates) := by
    intro o ho
    rw [ne_eq, Overlay.edges_graph_eq_empty_iff (Controller.canonical_of_run h hmerged ho),
      not_not]
  refine ⟨hnone, ?_, ?_, ?_⟩
  · intro shown hsome
    obtain ⟨o, ho, -, rfl⟩ := hshown.mp hsome
    exact ⟨o, ho, rfl, hrelates o ho⟩
  · rw [EnrichmentOutcome.KeepsUnrelated, hnone]
    constructor
    · intro hkeeps o ho hloops
      refine hloops.1 (hkeeps (fun o' ho' => ?_) o ho)
      obtain rfl : o = o' := Option.some.inj (ho.symm.trans ho')
      exact Overlay.not_relates_iff.mpr hloops.2
    · exact fun hloops hunrelated o ho => Overlay.edges_eq_nil (hunrelated o ho) (hloops o ho)
  · constructor
    · intro hshows o ho hloops
      have hedges := hshows _ (hshown.mpr ⟨o, ho, hloops.1, rfl⟩)
      exact Overlay.not_relates_iff.mpr hloops.2 ((hrelates o ho).mp hedges)
    · intro hloops shown hsome
      obtain ⟨o, ho, hedges, rfl⟩ := hshown.mp hsome
      refine (hrelates o ho).mpr ?_
      by_contra hunrelated
      exact hedges (Overlay.edges_eq_nil hunrelated (hloops o ho))

end

/-! ## An answer that relates files, and one that does not -/

/-- Two files, of which the first imports the second. -/
def importingFiles : List (Outline Int) := [
  { path := "a.py", language := .python, imports := [{ target := "b" }], lineCount := 1
    commentCount := 0 },
  { path := "b.js", language := .javascript, lineCount := 0, commentCount := 0 }]

/-- An import that is matched has an edge in the structural graph. -/
theorem exists_edge_of_asked {outlines : List (Outline Int)} {ends : String × String}
    (h : ends ∈ (declared (outlines.map .ofOutline)).filterMap
      (asked? (outlines.map .ofOutline))) :
    ∃ e ∈ (resolve outlines).graph.edges, e.ends = ends := by
  have hcounted := counted_ofImports (named_ofOutline outlines)
  have himplied := (linkAllImplied_spec (outlines.map .ofOutline) hcounted.wellFormed).2
  obtain ⟨e, he, hends⟩ := (hcounted.tally.mem_iff ends).mp h
  have hkept : e ∈ importEdges (resolve outlines).graph := by
    refine himplied ▸ List.mem_filter.mpr ⟨he, ?_⟩
    exact decide_eq_true (hcounted.kinds e (Array.mem_toList_iff.mp he))
  exact ⟨e, Array.mem_toList_iff.mp (List.mem_filter.mp hkept).1, hends⟩

/-- A run for these files and their structural graph, with a provider that gives an answer. -/
def runAnswered (answer : String) : Except Breakdown EnrichmentOutcome :=
  (({} : Controller).run {} (some fun _ => .answers (.text answer)) importingFiles
    (ProjectStats.ofOutlines importingFiles) (resolve importingFiles).graph).2

theorem nodeIds_importingFiles : importingFiles.map (·.nodeId) = ["a.py", "b.js"] := by
  decide +kernel

/-- An answer that can be read is used. -/
theorem exists_runAnswered {answer : String} {o : Overlay}
    (hblank : (Text.strip answer.toList).isEmpty = false)
    (hread : (readAnswer {} ["a.py", "b.js"] answer).toOption.bind (·.overlay) = some o) :
    ∃ e, runAnswered answer = .ok e ∧ e.phase = .merged ∧ e.assessment.overlay = some o
      ∧ e.overlay = (some o |>.filter (!·.isEmpty)).map (·.graph importingFiles) := by
  rw [← nodeIds_importingFiles] at hread
  obtain ⟨a, ha, ho⟩ := exists_readAnswer hread
  have hrun := Controller.run_of_readAnswer (c := {}) (l := {})
    (s := ProjectStats.ofOutlines importingFiles) (g := (resolve importingFiles).graph) rfl
    (Controller.reply_of_answers rfl (by decide) rfl hblank) ha
  refine ⟨_, hrun, rfl, ho, ?_⟩
  dsimp only
  rw [ho]

/-- So an answer with an edge between two files shows this edge. -/
theorem keepsUnrelated_spelled :
    ∃ e, runAnswered spelledAnswer = .ok e ∧ e.phase = .merged
      ∧ e.overlay ≠ none ∧ e.ShowsEdges := by
  have hread : (readAnswer {} ["a.py", "b.js"] spelledAnswer).toOption.bind (·.overlay)
      = some spelledOverlay := by
    rw [readAnswer_spelledAnswer]
    decide +kernel
  obtain ⟨e, hrun, hmerged, ho, -⟩ := exists_runAnswered Controller.strip_spelledAnswer hread
  -- Without this step the comparison of the two runs would evaluate them.
  have hran := hrun
  rw [runAnswered] at hran
  have hedges := keepsUnrelated_iff hran hmerged
  refine ⟨e, hrun, hmerged, fun hnone => ?_, hedges.2.2.2.mpr fun o ho' hloops => ?_⟩
  · exact absurd (hedges.1.mp hnone _ ho) (List.cons_ne_nil _ _)
  · obtain rfl : spelledOverlay = o := Option.some.inj (ho.symm.trans ho')
    exact absurd hloops.2 (by decide)

/-- An answer whose only edge leads from a file to itself, in another spelling. -/
def loopAnswer : String :=
  "\x7b\"summary\":\"s\",\"patterns\":[],\"recommendations\":[],\"complexityScore\":1,\"qualityScore\":2,\"graphOverlay\":\x7b\"edges\":[\x7b\"source\":\"a.py\",\"target\":\"./a.py\"\x7d]\x7d\x7d"

/-- The object in this answer. -/
def loopObject : Value :=
  .record [("summary", .text "s"), ("patterns", .list []), ("recommendations", .list []),
    ("complexityScore", .int 1), ("qualityScore", .int 2),
    ("graphOverlay", .record [("edges", .list [
      .record [("source", .text "a.py"), ("target", .text "./a.py")]])])]

/-- The graph of this answer. -/
def loopOverlay : Overlay where
  nodes := []
  edges := [⟨"a.py", "a.py", "import", 1⟩]

set_option maxRecDepth 4000 in
theorem readAnswer_loopAnswer (known : List String) :
    readAnswer {} known loopAnswer = assessmentOf {} known loopObject := by
  have hchars : loopAnswer.toList = _ := String.toList_ofList
  have hpayload : payload? loopAnswer = some loopAnswer := by
    rw [payload?, hchars]
    exact congrArg (Option.map String.ofList) (by decide +kernel : _ = some _)
  refine readAnswer_of_read hpayload ?_
  rw [Json.read, hchars]
  rfl

set_option maxRecDepth 4000 in
theorem strip_loopAnswer : (Text.strip loopAnswer.toList).isEmpty = false := by
  have hchars : loopAnswer.toList = _ := String.toList_ofList
  rw [hchars]
  decide +kernel

/-- Such an answer relates no two files, but its graph takes the place of the structural graph, and
    the edge between the two files is lost. -/
theorem not_keepsUnrelated_loop :
    ∃ e, runAnswered loopAnswer = .ok e ∧ e.phase = .merged
      ∧ ¬ e.KeepsUnrelated ∧ ¬ e.ShowsEdges
      ∧ (∃ edge ∈ (resolve importingFiles).graph.edges, edge.ends = ("a.py", "b.js"))
      ∧ (e.graph (resolve importingFiles).graph).edges = #[] := by
  have hread : (readAnswer {} ["a.py", "b.js"] loopAnswer).toOption.bind (·.overlay)
      = some loopOverlay := by
    rw [readAnswer_loopAnswer]
    decide +kernel
  obtain ⟨e, hrun, hmerged, ho, hshown⟩ := exists_runAnswered strip_loopAnswer hread
  have hgraph : e.overlay = some (loopOverlay.graph importingFiles) := hshown
  have hunrelated : ¬ loopOverlay.Relates := Overlay.not_relates_iff.mpr (by decide)
  have hedges : (loopOverlay.graph importingFiles).edges = #[] :=
    (Overlay.edges_graph_eq_empty_iff (by decide +kernel)).mpr hunrelated
  refine ⟨e, hrun, hmerged, fun hkeeps => ?_, fun hshows => hshows _ hgraph hedges,
    exists_edge_of_asked (by decide +kernel), ?_⟩
  · have hnone := hkeeps fun o ho' => Option.some.inj (ho.symm.trans ho') ▸ hunrelated
    exact nomatch hgraph.symm.trans hnone
  · rw [EnrichmentOutcome.graph, hgraph]
    exact hedges

end SourceAtlas
