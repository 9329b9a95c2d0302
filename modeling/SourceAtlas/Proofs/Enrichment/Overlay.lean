import SourceAtlas.Enrichment.Answer
import SourceAtlas.Enrichment.Assessment
import SourceAtlas.Proofs.Graph.Tally

/-! # The graph of an accepted answer

    The graph that a provider describes is drawn mention by mention: a file is
    added where it is mentioned first, and an edge where it is mentioned first
    between two different files; later mentions of an edge add to its weight.
    `Drawn` is the state of the drawing, `Drawn.addNode` and `Drawn.addEdge` its
    steps.

    An accepted answer mentions analysed files only (`isWithin_of_readAnswer`),
    so all of its files have a language.  `Depicts` says what becomes of such an
    answer, and `depicts_of_readAnswer` that its graph is just that. -/

namespace SourceAtlas

variable {ν : Type}

/-! ## Languages -/

/-- The last of several outlines with an identifier. -/
def IsLastWith (outlines : List (Outline ν)) (id : String) (o : Outline ν) : Prop :=
  ∃ before after, outlines = before ++ o :: after ∧ o.nodeId = id
    ∧ ∀ later ∈ after, later.nodeId ≠ id

/-- Every language has a name. -/
theorem Language.tag_ne_unknown (l : Language) : l.tag ≠ "unknown" := by
  cases l <;> decide

/-- An analysed file has the language of the last outline with its identifier. -/
theorem exists_isLastWith {outlines : List (Outline ν)} {id : String}
    (h : id ∈ outlines.map (·.nodeId)) :
    ∃ o, IsLastWith outlines id o ∧ languageTag outlines id = o.language.tag := by
  obtain ⟨known, hknown, hid⟩ := List.mem_map.mp h
  have hsome : (outlines.reverse.find? (·.nodeId = id)).isSome = true :=
    List.find?_isSome.mpr ⟨known, List.mem_reverse.mpr hknown, decide_eq_true hid⟩
  obtain ⟨o, ho⟩ := Option.isSome_iff_exists.mp hsome
  obtain ⟨hoid, after, before, hsplit, hafter⟩ := List.find?_eq_some_iff_append.mp ho
  refine ⟨o, ⟨before.reverse, after.reverse, ?_, of_decide_eq_true hoid, ?_⟩, ?_⟩
  · rw [← List.reverse_reverse outlines, hsplit, List.reverse_append, List.reverse_cons,
      List.append_assoc]
    rfl
  · intro later hlater
    simpa using hafter later (List.mem_reverse.mp hlater)
  · rw [languageTag, ho]
    rfl

/-! ## Mentions -/

/-- The two ends of an edge. -/
def OverlayEdge.ends (e : OverlayEdge) : String × String := (e.source, e.target)

/-- The files that the edges mention, in order. -/
def endsOf (edges : List OverlayEdge) : List String :=
  edges.flatMap fun e => [e.source, e.target]

theorem endsOf_cons (e : OverlayEdge) (rest : List OverlayEdge) :
    endsOf (e :: rest) = [e.source, e.target] ++ endsOf rest := rfl

/-- The files that are mentioned, in order: first those that are listed, then the ends of edges. -/
def Overlay.mentions (o : Overlay) : List String :=
  o.nodes.map (·.id) ++ endsOf o.edges

/-- The edges between two different files. -/
def properEdges (edges : List OverlayEdge) : List OverlayEdge :=
  edges.filter fun e => e.source ≠ e.target

/-- What edges ask for: a weight between their ends. -/
def weightsOf (edges : List OverlayEdge) : List ((String × String) × Int) :=
  (properEdges edges).map fun e => (e.ends, (e.weight : Int))

/-- What edges ask for: a kind between their ends. -/
def kindsOf (edges : List OverlayEdge) : List ((String × String) × String) :=
  (properEdges edges).map fun e => (e.ends, e.kind)

theorem properEdges_concat (edges : List OverlayEdge) (e : OverlayEdge) :
    properEdges (edges ++ [e])
      = properEdges edges ++ if e.source = e.target then [] else [e] := by
  rw [properEdges, List.filter_append, List.filter_singleton]
  by_cases h : e.source = e.target
  · rw [if_pos h, decide_eq_false (not_not_intro h)]
    rfl
  · rw [if_neg h, decide_eq_true h]
    rfl

/-- Edges between two different files are proper. -/
theorem filter_ends_properEdges (edges : List OverlayEdge) {ends : String × String}
    (h : ends.1 ≠ ends.2) :
    (properEdges edges).filter (·.ends = ends) = edges.filter (·.ends = ends) := by
  rw [properEdges, List.filter_filter]
  refine List.filter_congr fun e _ => ?_
  rw [← Bool.decide_and]
  refine decide_eq_decide.mpr ⟨And.left, fun hends => ⟨hends, ?_⟩⟩
  intro hsame
  rw [← hends] at h
  exact h hsame

/-- The pairs that edges ask for are the ends of those between two different files. -/
theorem mem_ends_weightsOf (edges : List OverlayEdge) (ends : String × String) :
    ends ∈ (weightsOf edges).map (·.1) ↔ ends.1 ≠ ends.2 ∧ ∃ e ∈ edges, e.ends = ends := by
  rw [weightsOf, List.map_map, List.mem_map]
  constructor
  · rintro ⟨e, he, rfl⟩
    obtain ⟨hin, hproper⟩ := List.mem_filter.mp he
    exact ⟨of_decide_eq_true hproper, e, hin, rfl⟩
  · rintro ⟨hproper, e, he, rfl⟩
    exact ⟨e, List.mem_filter.mpr ⟨he, decide_eq_true hproper⟩, rfl⟩

/-- Between two different files, edges ask for the sum of their weights. -/
theorem weightAsked_weightsOf (edges : List OverlayEdge) {ends : String × String}
    (h : ends.1 ≠ ends.2) :
    weightAsked (weightsOf edges) ends
      = (((edges.filter (·.ends = ends)).map (·.weight)).sum : Nat) := by
  rw [weightAsked, weightsOf, List.filter_map, List.map_map, Nat.cast_list_sum, List.map_map,
    ← filter_ends_properEdges edges h]
  rfl

/-- Between two different files, edges ask for the kind of the first one. -/
theorem kindAsked?_kindsOf (edges : List OverlayEdge) {ends : String × String}
    (h : ends.1 ≠ ends.2) :
    kindAsked? (kindsOf edges) ends = (edges.find? (·.ends = ends)).map (·.kind) := by
  rw [kindAsked?, kindsOf, List.find?_map, Option.map_map, ← List.head?_filter,
    ← List.head?_filter, ← filter_ends_properEdges edges h]
  rfl

/-! ## Drawing -/

/-- The graph after some files and some edges were mentioned. -/
structure Drawn (outlines : List (Outline ν)) (mentioned : List String)
    (edges : List OverlayEdge) (g : Graph) : Prop where
  wellFormed : g.WellFormed
  /-- The nodes are in the order in which they were mentioned first. -/
  order : g.nodeIds = mentioned.eraseDups
  languages : ∀ n ∈ g.nodes, n.language = languageTag outlines n.id
  weights : Sums (weightsOf edges) g.edges.toList
  kinds : FirstKinds (kindsOf edges) g.edges.toList

namespace Drawn

variable {outlines : List (Outline ν)} {mentioned : List String} {edges : List OverlayEdge}
  {g : Graph}

theorem empty (outlines : List (Outline ν)) : Drawn outlines [] [] .empty where
  wellFormed := Graph.WellFormed.empty
  order := rfl
  languages := fun _ h => nomatch h
  weights := Sums.nil
  kinds := fun _ h => nomatch h

theorem mem_nodeIndex (h : Drawn outlines mentioned edges g) {p : String} :
    p ∈ g.nodeIndex ↔ p ∈ mentioned := by
  rw [h.wellFormed.mem_nodeIndex, h.order, List.mem_eraseDups]

/-- A file is mentioned. -/
theorem addNode (h : Drawn outlines mentioned edges g) {p : String} (hp : Path.normalize p = p)
    (label : String) :
    Drawn outlines (mentioned ++ [p]) edges (g.addNode p label (languageTag outlines p)) := by
  have hwf := h.wellFormed.addNode p label (languageTag outlines p)
  rcases Graph.addNode_cases g p label (languageTag outlines p) with ⟨hold, heq⟩ | ⟨hnew, heq⟩
  · rw [heq]
    rw [hp, h.mem_nodeIndex] at hold
    refine ⟨h.wellFormed, ?_, h.languages, h.weights, h.kinds⟩
    rw [eraseDups_concat, if_pos hold, List.append_nil, h.order]
  · rw [heq] at hwf ⊢
    rw [hp, h.mem_nodeIndex] at hnew
    refine ⟨hwf, ?_, ?_, h.weights, h.kinds⟩
    · rw [eraseDups_concat, if_neg hnew, ← h.order, Graph.nodeIds, Array.toList_push,
        List.map_append, List.map_singleton, Graph.newNode, hp]
      rfl
    · intro n hn
      rcases Array.mem_push.mp hn with hn | rfl
      · exact h.languages n hn
      · show languageTag outlines p = languageTag outlines (Path.normalize p)
        rw [hp]

/-- An edge is mentioned. -/
theorem addEdge (h : Drawn outlines mentioned edges g) {e : OverlayEdge}
    (hs : Path.normalize e.source = e.source) (ht : Path.normalize e.target = e.target) :
    Drawn outlines (mentioned ++ [e.source, e.target]) (edges ++ [e])
      (Overlay.addEdge outlines g e) := by
  have hnodes := (h.addNode hs "").addNode ht ""
  rw [List.append_assoc] at hnodes
  have hresult : Overlay.addEdge outlines g e
      = ((g.addNode e.source "" (languageTag outlines e.source)).addNode e.target ""
        (languageTag outlines e.target)).addEdge e.source e.target e.kind e.weight := rfl
  rw [hresult]
  generalize (g.addNode e.source "" (languageTag outlines e.source)).addNode e.target ""
    (languageTag outlines e.target) = g' at hnodes ⊢
  have hboth : e.source ∈ g'.nodeIndex ∧ e.target ∈ g'.nodeIndex := by
    rw [hnodes.mem_nodeIndex, hnodes.mem_nodeIndex]
    exact ⟨by simp, by simp⟩
  have hframe := Graph.nodes_addEdge g' e.source e.target e.kind (e.weight : Int)
  have hids : (g'.addEdge e.source e.target e.kind (e.weight : Int)).nodeIds = g'.nodeIds := by
    rw [Graph.nodeIds, hframe.1]
    rfl
  have hjoins : g'.joins e.source e.target = true ↔ e.source ≠ e.target :=
    (Graph.joins_iff g' _ _).trans (and_iff_left hboth)
  have hasked : (kindsOf edges).map (·.1) = (weightsOf edges).map (·.1) := by
    rw [kindsOf, weightsOf, List.map_map, List.map_map]
    rfl
  have hlanguages : ∀ n ∈ (g'.addEdge e.source e.target e.kind (e.weight : Int)).nodes,
      n.language = languageTag outlines n.id := by
    rw [hframe.1]
    exact hnodes.languages
  have hedges : Sums (weightsOf (edges ++ [e]))
        (g'.addEdge e.source e.target e.kind (e.weight : Int)).edges.toList
      ∧ FirstKinds (kindsOf (edges ++ [e]))
        (g'.addEdge e.source e.target e.kind (e.weight : Int)).edges.toList := by
    rw [weightsOf, kindsOf, properEdges_concat]
    by_cases hself : e.source = e.target
    · -- The graph refuses the edge, and it asks for nothing.
      have hrefused : g'.addEdge e.source e.target e.kind (e.weight : Int) = g' := by
        refine if_neg ?_
        rw [hs, ht, hjoins]
        exact not_not_intro hself
      rw [hrefused, if_pos hself, List.append_nil]
      exact ⟨hnodes.weights, hnodes.kinds⟩
    · have ha : g'.accepts e.source e.target = true := by
        rw [Graph.accepts, hs, ht, hjoins]
        exact hself
      have hweights := hnodes.weights.addEdge hnodes.wellFormed ha e.kind e.weight
      have hkinds :=
        hnodes.kinds.addEdge hnodes.weights hasked hnodes.wellFormed ha e.kind e.weight
      rw [hs, ht] at hweights hkinds
      rw [if_neg hself, List.map_append, List.map_append]
      exact ⟨hweights, hkinds⟩
  exact ⟨hnodes.wellFormed.addEdge .., hids.trans hnodes.order, hlanguages, hedges.1, hedges.2⟩

/-- Several files are mentioned. -/
theorem addNodes (nodes : List OverlayNode) :
    ∀ {mentioned : List String} {g : Graph}, Drawn outlines mentioned edges g →
      (∀ p ∈ nodes.map (·.id), Path.normalize p = p) →
      Drawn outlines (mentioned ++ nodes.map (·.id)) edges
        (nodes.foldl (Overlay.addNode outlines) g) := by
  induction nodes with
  | nil =>
      intro mentioned g h _
      rw [List.map_nil, List.append_nil]
      exact h
  | cons n rest ih =>
      intro mentioned g h hcanonical
      rw [List.map_cons] at hcanonical ⊢
      rw [List.foldl_cons, List.append_cons]
      exact ih (h.addNode (hcanonical _ (List.mem_cons_self ..)) _)
        fun p hp => hcanonical p (List.mem_cons_of_mem _ hp)

/-- Several edges are mentioned. -/
theorem addEdges (more : List OverlayEdge) :
    ∀ {mentioned : List String} {edges : List OverlayEdge} {g : Graph},
      Drawn outlines mentioned edges g → (∀ p ∈ endsOf more, Path.normalize p = p) →
      Drawn outlines (mentioned ++ endsOf more) (edges ++ more)
        (more.foldl (Overlay.addEdge outlines) g) := by
  induction more with
  | nil =>
      intro mentioned edges g h _
      rw [endsOf, List.flatMap_nil, List.append_nil, List.append_nil]
      exact h
  | cons e rest ih =>
      intro mentioned edges g h hcanonical
      rw [endsOf_cons] at hcanonical ⊢
      rw [List.foldl_cons, List.append_cons edges, ← List.append_assoc]
      refine ih (h.addEdge (hcanonical _ ?_) (hcanonical _ ?_)) fun p hp => hcanonical p ?_
      · exact List.mem_cons_self ..
      · exact List.mem_cons_of_mem _ (List.mem_cons_self ..)
      · exact List.mem_append_right _ hp

/-- All files and edges of an overlay are mentioned, one after the other. -/
theorem graph (outlines : List (Outline ν)) {o : Overlay}
    (h : ∀ p ∈ o.mentions, Path.normalize p = p) :
    Drawn outlines o.mentions o.edges (o.graph outlines) := by
  have hnodes := (Drawn.empty outlines).addNodes o.nodes
    fun p hp => h p (List.mem_append_left _ hp)
  exact hnodes.addEdges o.edges fun p hp => h p (List.mem_append_right _ hp)

end Drawn

/-! ## Accepted answers -/

/-- An object is read as an assessment. -/
theorem readAnswer_of_read {r : AnswerReader} {known : List String} {answer text : String}
    {v : Value} (hpayload : payload? answer = some text) (hread : Json.read r.json text = .ok v) :
    readAnswer r known answer = assessmentOf r known v := by
  unfold readAnswer payload
  rw [hpayload]
  dsimp only
  rw [hread]

/-- The graph of an answer comes with an assessment. -/
theorem exists_readAnswer {r : AnswerReader} {known : List String} {answer : String} {o : Overlay}
    (h : (readAnswer r known answer).toOption.bind (·.overlay) = some o) :
    ∃ a, readAnswer r known answer = .ok a ∧ a.overlay = some o := by
  cases hread : readAnswer r known answer with
  | error e =>
      rw [hread] at h
      exact nomatch h
  | ok a =>
      rw [hread] at h
      exact ⟨a, rfl, h⟩

theorem isWithin_of_ofValue {halves : Bool} {known : List String} {v : Value} {a : Assessment}
    (h : Assessment.ofValue halves (some known) v = .valid a) : a.isWithin known = true := by
  unfold Assessment.ofValue Checked.when at h
  split at h
  · split at h
    · rename_i a' _ htest
      rw [← Checked.valid.inj h]
      exact htest
    · exact nomatch h
  · exact nomatch h

theorem isWithin_of_assessmentOf {r : AnswerReader} {known : List String} {v : Value}
    {a : Assessment} (h : assessmentOf r known v = .ok a) : a.isWithin known = true := by
  unfold assessmentOf at h
  split at h
  · split at h
    · rename_i a' hvalid
      rw [← Except.ok.inj h]
      exact isWithin_of_ofValue hvalid
    · exact nomatch h
  · exact nomatch h

/-- The graph of an accepted answer speaks of known paths only. -/
theorem isWithin_of_readAnswer {r : AnswerReader} {known : List String} {answer : String}
    {a : Assessment} (h : readAnswer r known answer = .ok a) : a.isWithin known = true := by
  unfold readAnswer at h
  split at h
  · exact nomatch h
  · split at h
    · exact nomatch h
    · rename_i v _
      exact isWithin_of_assessmentOf h

/-- What holds of all mentions of a graph holds of its files and of both ends of its edges. -/
theorem Overlay.forall_mentions_iff {o : Overlay} {p : String → Prop} :
    (∀ x ∈ o.mentions, p x)
      ↔ (∀ n ∈ o.nodes, p n.id) ∧ ∀ e ∈ o.edges, p e.source ∧ p e.target := by
  rw [mentions, List.forall_mem_append, List.forall_mem_map, endsOf, List.forall_mem_flatMap]
  refine and_congr_right' (forall₂_congr fun e _ => ?_)
  rw [List.forall_mem_cons, List.forall_mem_singleton]

/-- A graph is within known paths if whatever it mentions is known. -/
theorem Overlay.isWithin_iff {o : Overlay} {known : List String} :
    o.isWithin known = true ↔ ∀ p ∈ o.mentions, p ∈ known := by
  rw [forall_mentions_iff, isWithin, Bool.and_eq_true, List.all_eq_true, List.all_eq_true]
  simp only [List.contains_iff_mem, Bool.and_eq_true]

/-- A graph shows what an overlay says about analysed files. -/
structure Depicts (outlines : List (Outline ν)) (o : Overlay) (g : Graph) : Prop where
  /-- The nodes are the files that the overlay mentions, in the order in which it does so first. -/
  order : g.nodeIds = o.mentions.eraseDups
  /-- Each is an analysed file and has the language of the last one with its identifier. -/
  analysed : ∀ n ∈ g.nodes, n.language ≠ "unknown"
    ∧ ∃ f, IsLastWith outlines n.id f ∧ n.language = f.language.tag
  /-- No edge leads from a file to itself. -/
  proper : ∀ e ∈ g.edges, e.source ≠ e.target
  /-- No two edges have the same ends. -/
  single : (g.edges.toList.map Edge.ends).Nodup
  /-- Two different files have an edge if and only if the overlay has one between them. -/
  shown : ∀ p q, Path.normalize p ≠ Path.normalize q → (g.hasEdge p q = true
    ↔ ∃ e ∈ o.edges, e.ends = (Path.normalize p, Path.normalize q))
  /-- An edge has the weight of all edges of the overlay between its ends. -/
  weight : ∀ e ∈ g.edges, e.weight = ((o.edges.filter (·.ends = e.ends)).map (·.weight)).sum
  /-- An edge has the kind of the first edge of the overlay between its ends. -/
  kind : ∀ e ∈ g.edges, (o.edges.find? (·.ends = e.ends)).map (·.kind) = some e.kind

/-- **OVERLAYS**: the graph of an accepted answer shows all that it says about the analysed files,
    and nothing else. -/
theorem depicts_of_readAnswer {r : AnswerReader} {outlines : List (Outline ν)} {answer : String}
    {a : Assessment} {o : Overlay}
    (hread : readAnswer r (outlines.map (·.nodeId)) answer = .ok a) (ho : a.overlay = some o) :
    Depicts outlines o (o.graph outlines) := by
  have hwithin : o.isWithin (outlines.map (·.nodeId)) = true := by
    have h := isWithin_of_readAnswer hread
    rw [Assessment.isWithin, ho] at h
    exact h
  have hcanonical : ∀ p ∈ o.mentions, Path.normalize p = p := by
    intro p hp
    obtain ⟨f, -, rfl⟩ := List.mem_map.mp (Overlay.isWithin_iff.mp hwithin _ hp)
    exact Path.normalize_normalize f.path
  have hdrawn := Drawn.graph outlines hcanonical
  generalize o.graph outlines = g at hdrawn ⊢
  have hproper : ∀ e ∈ g.edges, e.source ≠ e.target :=
    fun e he => (hdrawn.wellFormed.ends_mem he).1
  refine ⟨hdrawn.order, ?_, hproper, hdrawn.wellFormed.edgeIndex.nodup, ?_, ?_, ?_⟩
  · intro n hn
    have hmention : n.id ∈ o.mentions := by
      rw [← List.mem_eraseDups, ← hdrawn.order, Graph.mem_nodeIds]
      exact ⟨n, hn, rfl⟩
    obtain ⟨f, hlast, htag⟩ := exists_isLastWith (Overlay.isWithin_iff.mp hwithin _ hmention)
    rw [hdrawn.languages n hn, htag]
    exact ⟨f.language.tag_ne_unknown, f, hlast, rfl⟩
  · intro p q hpq
    have hasked := hdrawn.weights.mem_iff (Path.normalize p, Path.normalize q)
    rw [mem_ends_weightsOf, and_iff_right hpq] at hasked
    rw [hdrawn.wellFormed.hasEdge_iff, hasked]
    exact exists_congr fun e => and_congr_left' Array.mem_toList_iff.symm
  · intro e he
    rw [hdrawn.weights.weight e (Array.mem_toList_iff.mpr he),
      weightAsked_weightsOf o.edges (hproper e he)]
  · intro e he
    rw [← hdrawn.kinds e (Array.mem_toList_iff.mpr he),
      kindAsked?_kindsOf o.edges (hproper e he)]

/-- Three files, two of them with one path in two spellings. -/
def spelledFiles : List (Outline Int) := [
  { path := "./a.py", language := .python, lineCount := 1, commentCount := 0 },
  { path := "b.js", language := .javascript, lineCount := 1, commentCount := 0 },
  { path := "a.py", language := .go, lineCount := 1, commentCount := 0 }]

/-- An answer that spells the paths of these files in its own way and says one thing twice. -/
def spelledAnswer : String :=
  "\x7b\"summary\":\"s\",\"patterns\":[],\"recommendations\":[],\"complexityScore\":1,\"qualityScore\":2,\"graphOverlay\":\x7b\"edges\":[\x7b\"source\":\" .\\\\b.js\",\"target\":\"a.py\",\"kind\":\"calls\",\"weight\":2\x7d,\x7b\"source\":\"a.py\",\"target\":\"./a.py\"\x7d,\x7b\"source\":\"b.js\",\"target\":\"a.py\"\x7d]\x7d\x7d"

/-- The object in this answer. -/
def spelledObject : Value :=
  .record [("summary", .text "s"), ("patterns", .list []), ("recommendations", .list []),
    ("complexityScore", .int 1), ("qualityScore", .int 2),
    ("graphOverlay", .record [("edges", .list [
      .record [("source", .text " .\\b.js"), ("target", .text "a.py"), ("kind", .text "calls"),
        ("weight", .int 2)],
      .record [("source", .text "a.py"), ("target", .text "./a.py")],
      .record [("source", .text "b.js"), ("target", .text "a.py")]])])]

/-- The graph of this answer. -/
def spelledOverlay : Overlay where
  nodes := []
  edges := [⟨"b.js", "a.py", "calls", 2⟩, ⟨"a.py", "a.py", "import", 1⟩,
    ⟨"b.js", "a.py", "import", 1⟩]

set_option maxRecDepth 4000 in
theorem readAnswer_spelledAnswer (known : List String) :
    readAnswer {} known spelledAnswer = assessmentOf {} known spelledObject := by
  have hchars : spelledAnswer.toList = _ := String.toList_ofList
  have hpayload : payload? spelledAnswer = some spelledAnswer := by
    rw [payload?, hchars]
    exact congrArg (Option.map String.ofList) (by decide +kernel : _ = some _)
  refine readAnswer_of_read hpayload ?_
  rw [Json.read, hchars]
  rfl

theorem readAnswer_spelledAnswer_overlay :
    (readAnswer {} (spelledFiles.map (·.nodeId)) spelledAnswer).toOption.bind (·.overlay)
      = some spelledOverlay := by
  rw [readAnswer_spelledAnswer]
  decide +kernel

/-- So the graph of this answer has the files of one edge, and this edge weighs three. -/
theorem depicts_spelledOverlay :
    ∃ a, readAnswer {} (spelledFiles.map (·.nodeId)) spelledAnswer = .ok a
      ∧ a.overlay = some spelledOverlay
      ∧ Depicts spelledFiles spelledOverlay (spelledOverlay.graph spelledFiles) := by
  obtain ⟨a, hread, ho⟩ := exists_readAnswer readAnswer_spelledAnswer_overlay
  exact ⟨a, hread, ho, depicts_of_readAnswer hread ho⟩

end SourceAtlas
