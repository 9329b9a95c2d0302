import SourceAtlas.Proofs.Graph.Tally
import SourceAtlas.Proofs.Resolve.Tiers
import SourceAtlas.Resolve.Basic

/-! # Every import is accounted for

    The imports of a batch are taken one by one, in order (`declared`).  One that
    means a file asks for an edge between the two files (`asked?`), and every
    other one is listed.  `Counted` is the invariant of that pass: the edges tally
    what was asked for so far, and the list holds the rest.  No request is
    refused, because both files are nodes and differ (`accepts_of_matchImport`).

    The links without imports come after.  They take only pairs that have no edge
    yet, so the edges for imports stay as they are (`linkAllImplied_spec`), and
    `resolve_accounts` says that nothing is lost and nothing counted twice. -/

namespace SourceAtlas

/-! ## Imports and what they ask for -/

/-- The imports of a batch, each with the file that declares it, in order. -/
def declared (batch : List Candidate) : List (Candidate × Import) :=
  batch.flatMap fun c => c.imports.map fun i => (c, i)

/-- The ends of the edge that an import asks for, if it means a file of the batch. -/
def asked? (batch : List Candidate) (d : Candidate × Import) : Option (String × String) :=
  (matchImport d.1 d.2 batch).map fun found => (d.1.id, found.1.id)

/-- How many imports of files with one identifier mean a file with another one. -/
def importsBetween (batch : List Candidate) (source target : String) : Nat :=
  (declared batch).countP fun d =>
    d.1.id = source && (matchImport d.1 d.2 batch).any (·.1.id = target)

/-- The entries for the imports that mean no file of the batch. -/
def unmatchedIn (batch : List Candidate) (done : List (Candidate × Import)) : List Unresolved :=
  (done.filter fun d => Unmatched batch d.1 d.2).map fun d => ⟨d.2.target, d.1.path⟩

/-- The kinds of edges that stand for imports. -/
def importKinds : List String := [Link.path, .scope, .mention].map Link.word

/-- The edges of a graph that stand for imports. -/
def importEdges (g : Graph) : List Edge :=
  g.edges.toList.filter fun e => e.kind ∈ importKinds

section

variable {batch : List Candidate}

theorem asked?_eq_none {d : Candidate × Import} (h : matchImport d.1 d.2 batch = none) :
    asked? batch d = none := by
  rw [asked?, h, Option.map_none]

theorem asked?_eq_some {d : Candidate × Import} {found : Candidate} {link : Link}
    (h : matchImport d.1 d.2 batch = some (found, link)) :
    asked? batch d = some (d.1.id, found.id) := by
  rw [asked?, h, Option.map_some]

theorem unmatchedIn_concat (done : List (Candidate × Import)) (d : Candidate × Import) :
    unmatchedIn batch (done ++ [d])
      = unmatchedIn batch done
        ++ if Unmatched batch d.1 d.2 then [⟨d.2.target, d.1.path⟩] else [] := by
  rw [unmatchedIn, unmatchedIn, List.filter_append, List.map_append]
  by_cases h : Unmatched batch d.1 d.2
  · rw [if_pos h, List.filter_singleton, decide_eq_true h]
    rfl
  · rw [if_neg h, List.filter_singleton, decide_eq_false h]
    rfl

/-- The imports between two identifiers are the requests for that pair. -/
theorem importsBetween_eq_count (source target : String) :
    importsBetween batch source target
      = ((declared batch).filterMap (asked? batch)).count (source, target) := by
  rw [importsBetween, List.count_filterMap]
  refine List.countP_congr fun d _ => ?_
  rw [asked?]
  cases matchImport d.1 d.2 batch with
  | none => simp
  | some found => simp

/-- An import asks for an edge or is listed, and never both. -/
theorem length_filterMap_asked (done : List (Candidate × Import)) :
    (done.filterMap (asked? batch)).length + (unmatchedIn batch done).length = done.length := by
  have hlisted : ∀ d ∈ done, Unmatched batch d.1 d.2 ↔ ¬ (asked? batch d).isSome := by
    intro d _
    rw [← matchImport_eq_none_iff, asked?, Option.isSome_map, Option.not_isSome_iff_eq_none]
  rw [unmatchedIn, List.length_map, ← List.countP_eq_length_filter,
    List.length_filterMap_eq_countP,
    List.length_eq_countP_add_countP (fun d => (asked? batch d).isSome)]
  congr 1
  exact List.countP_congr fun d hd => by simpa using hlisted d hd

/-! ## The pass over the imports -/

/-- The identifiers of a batch are the canonical spellings of its paths. -/
def Named (batch : List Candidate) : Prop :=
  ∀ c ∈ batch, c.id = Path.normalize c.path

theorem named_ofOutline {ν : Type} (outlines : List (Outline ν)) :
    Named (outlines.map Candidate.ofOutline) := by
  intro c hc
  obtain ⟨o, -, rfl⟩ := List.mem_map.mp hc
  rfl

theorem Named.normalize_id (h : Named batch) {c : Candidate} (hc : c ∈ batch) :
    Path.normalize c.id = c.id := by
  rw [h c hc, Path.normalize_normalize]

/-- After the imports `done`, the edges tally what these asked for, and the list holds the rest. -/
structure Counted (batch : List Candidate) (done : List (Candidate × Import)) (r : Resolution) :
    Prop where
  wellFormed : r.graph.WellFormed
  nodes : ∀ c ∈ batch, c.id ∈ r.graph.nodeIndex
  kinds : ∀ e ∈ r.graph.edges, e.kind ∈ importKinds
  tally : Tallies (done.filterMap (asked? batch)) r.graph.edges.toList
  unresolved : r.unresolved.toList = unmatchedIn batch done

/-- The files of the batch become nodes. -/
theorem mem_nodeIndex_foldl_addNode (cs : List Candidate) (g : Graph) {id : String} :
    id ∈ (cs.foldl (fun g c => g.addNode c.path "" c.language.tag) g).nodeIndex
      ↔ (∃ c ∈ cs, Path.normalize c.path = id) ∨ id ∈ g.nodeIndex := by
  induction cs generalizing g with
  | nil => simp
  | cons c rest ih =>
      rw [List.foldl_cons, ih, Graph.mem_nodeIndex_addNode, List.exists_mem_cons_iff,
        ← or_assoc, or_comm (b := Path.normalize c.path = id)]

/-- Nodes bring no edges. -/
theorem edges_foldl_addNode (cs : List Candidate) (g : Graph) :
    (cs.foldl (fun g c => g.addNode c.path "" c.language.tag) g).edges = g.edges := by
  induction cs generalizing g with
  | nil => rfl
  | cons c rest ih =>
      rw [List.foldl_cons, ih]
      rcases Graph.addNode_cases g c.path "" c.language.tag with ⟨-, heq⟩ | ⟨-, heq⟩ <;> rw [heq]

/-- Before the first import. -/
theorem counted_start (h : Named batch) : Counted batch [] (Resolution.start batch) := by
  have hedges : (Resolution.start batch).graph.edges = #[] := edges_foldl_addNode batch .empty
  refine ⟨?_, ?_, ?_, ?_, rfl⟩
  · exact List.foldlRecOn batch _ Graph.WellFormed.empty fun _ hg c _ => hg.addNode c.path _ _
  · intro c hc
    exact (mem_nodeIndex_foldl_addNode batch .empty).mpr (Or.inl ⟨c, hc, (h c hc).symm⟩)
  · rw [hedges]
    intro e he
    exact absurd he (Array.not_mem_empty e)
  · rw [hedges]
    exact Tallies.nil

/-- The edge that an import asks for is never refused. -/
theorem accepts_of_matchImport {done : List (Candidate × Import)} {r : Resolution}
    {importer found : Candidate} {i : Import} {link : Link} (hnamed : Named batch)
    (h : Counted batch done r) (himporter : importer ∈ batch)
    (hm : matchImport importer i batch = some (found, link)) :
    r.graph.accepts importer.id found.id = true := by
  obtain ⟨hfound, hne⟩ := mem_others.mp (mem_others_of_matchImport hm)
  rw [Graph.accepts, hnamed.normalize_id himporter, hnamed.normalize_id hfound]
  exact (Graph.joins_iff _ _ _).mpr ⟨Ne.symm hne, h.nodes _ himporter, h.nodes _ hfound⟩

/-- Whatever tier matches, the edge stands for an import. -/
theorem word_mem_importKinds {importer found : Candidate} {i : Import} {link : Link}
    (hm : matchImport importer i batch = some (found, link)) : link.word ∈ importKinds := by
  rcases matchImport_cases hm with ⟨rfl, -⟩ | ⟨rfl, -⟩ | ⟨rfl, -⟩ <;> decide

/-- One more import. -/
theorem Counted.addImport {done : List (Candidate × Import)} {r : Resolution}
    (hnamed : Named batch) (h : Counted batch done r) {d : Candidate × Import}
    (hd : d.1 ∈ batch) : Counted batch (done ++ [d]) (r.addImport batch d.1 d.2) := by
  rw [Resolution.addImport]
  cases hm : matchImport d.1 d.2 batch with
  | none =>
      refine ⟨h.wellFormed, h.nodes, h.kinds, ?_, ?_⟩
      · rw [List.filterMap_append, List.filterMap_cons_none (asked?_eq_none hm),
          List.filterMap_nil, List.append_nil]
        exact h.tally
      · rw [unmatchedIn_concat, if_pos (matchImport_eq_none_iff.mp hm), Array.toList_push,
          h.unresolved]
  | some m =>
      obtain ⟨found, link⟩ := m
      have ha := accepts_of_matchImport hnamed h hd hm
      have hfound := (mem_others.mp (mem_others_of_matchImport hm)).1
      have hwf : (r.graph.addEdge d.1.id found.id link.word).WellFormed :=
        h.wellFormed.addEdge _ _ _ _
      have hnodes : ∀ c ∈ batch, c.id ∈ (r.graph.addEdge d.1.id found.id link.word).nodeIndex := by
        intro c hc
        rw [(Graph.nodes_addEdge ..).2]
        exact h.nodes c hc
      have hkinds : ∀ e ∈ (r.graph.addEdge d.1.id found.id link.word).edges,
          e.kind ∈ importKinds := by
        intro e he
        rcases h.wellFormed.origin_addEdge ha link.word _ he with
          ⟨-, hkind⟩ | ⟨known, hknown, -, hkind⟩
        · rw [hkind]
          exact word_mem_importKinds hm
        · rw [hkind]
          exact h.kinds known hknown
      have htally := h.tally.addEdge h.wellFormed ha link.word
      rw [hnamed.normalize_id hd, hnamed.normalize_id hfound] at htally
      have hmatched : ¬ Unmatched batch d.1 d.2 := by
        intro hno
        exact absurd (hm.symm.trans (matchImport_eq_none_iff.mpr hno)) nofun
      -- What makes the graph is named away, so that the fields are not compared by unfolding it.
      show Counted batch (done ++ [d])
        { r with graph := r.graph.addEdge d.1.id found.id link.word }
      generalize r.graph.addEdge d.1.id found.id link.word = g' at hwf hnodes hkinds htally ⊢
      refine ⟨hwf, hnodes, hkinds, ?_, ?_⟩
      · rw [List.filterMap_append, List.filterMap_cons_some (asked?_eq_some hm),
          List.filterMap_nil]
        exact htally
      · rw [unmatchedIn_concat, if_neg hmatched, List.append_nil]
        exact h.unresolved

/-- Any further imports of the batch. -/
theorem Counted.foldl (hnamed : Named batch) (rest : List (Candidate × Import)) :
    ∀ {done : List (Candidate × Import)} {r : Resolution}, Counted batch done r →
      (∀ d ∈ rest, d.1 ∈ batch) →
      Counted batch (done ++ rest) (rest.foldl (fun r d => r.addImport batch d.1 d.2) r) := by
  induction rest with
  | nil =>
      intro done r h _
      rw [List.append_nil]
      exact h
  | cons d rest ih =>
      intro done r h hin
      rw [List.foldl_cons, List.append_cons]
      exact ih (h.addImport hnamed (hin d (List.mem_cons_self ..)))
        fun d' hd' => hin d' (List.mem_cons_of_mem _ hd')

/-- The pass file by file is a pass over all imports in order. -/
theorem ofImports_eq_foldl (batch : List Candidate) :
    Resolution.ofImports batch
      = (declared batch).foldl (fun r d => r.addImport batch d.1 d.2) (Resolution.start batch) := by
  rw [declared, List.foldl_flatMap]
  simp only [List.foldl_map]
  rfl

/-- After all imports of the batch. -/
theorem counted_ofImports (h : Named batch) :
    Counted batch (declared batch) (Resolution.ofImports batch) := by
  rw [ofImports_eq_foldl]
  refine (counted_start h).foldl h (declared batch) ?_
  intro d hd
  obtain ⟨c, hc, hd⟩ := List.mem_flatMap.mp hd
  obtain ⟨i, -, rfl⟩ := List.mem_map.mp hd
  exact hc

/-! ## The pass over the pairs of files -/

/-- A link without an import never has the kind of one with an import. -/
theorem word_not_mem_importKinds {source sibling : Candidate} {link : Link}
    (h : impliedLink? source sibling = some link) : link.word ∉ importKinds := by
  have hlink : link = .sameScope ∨ link = .sameDirectory := by
    rw [impliedLink?] at h
    split at h
    · split at h
      · split at h
        · exact Or.inl (Option.some.inj h).symm
        · exact nomatch h
      · split at h
        · exact Or.inr (Option.some.inj h).symm
        · exact nomatch h
    · exact nomatch h
  rcases hlink with rfl | rfl <;> decide

/-- All that linking two files can do: nothing, or a new edge goes to the end. -/
theorem linkImplied_cases (source sibling : Candidate) (g : Graph) :
    linkImplied source g sibling = g
    ∨ ∃ link, impliedLink? source sibling = some link ∧ g.hasEdge source.id sibling.id = false
      ∧ linkImplied source g sibling
        = g.addEdge source.id sibling.id link.word link.impliedWeight := by
  rw [linkImplied]
  split
  · exact Or.inl rfl
  · rename_i hfree
    cases hl : impliedLink? source sibling with
    | none => exact Or.inl rfl
    | some link =>
        refine Or.inr ⟨link, rfl, ?_, rfl⟩
        rw [Bool.or_eq_true, not_or] at hfree
        exact eq_false_of_ne_true hfree.2

/-- One link leaves the edges for imports alone. -/
theorem importEdges_linkImplied (source sibling : Candidate) (g : Graph) :
    importEdges (linkImplied source g sibling) = importEdges g := by
  rcases linkImplied_cases source sibling g with heq | ⟨link, hlink, hfree, heq⟩
  · rw [heq]
  · rw [heq]
    rcases Graph.addEdge_cases g source.id sibling.id link.word link.impliedWeight with
      ⟨-, hadd⟩ | ⟨-, -, hadd⟩ | ⟨-, i, hi, -⟩
    · rw [hadd]
    · rw [hadd, importEdges, importEdges, Array.toList_push, List.filter_append,
        List.filter_singleton, decide_eq_false (word_not_mem_importKinds hlink)]
      exact List.append_nil _
    · -- An edge that is there would have stopped the pass.
      have hthere : g.hasEdge source.id sibling.id = true := by
        rw [Graph.hasEdge, ← Std.HashMap.mem_iff_contains, Std.HashMap.mem_iff_isSome_getElem?, hi]
        rfl
      exact absurd (hfree.symm.trans hthere) Bool.false_ne_true

theorem Graph.WellFormed.linkImplied {g : Graph} (h : g.WellFormed) (source sibling : Candidate) :
    (linkImplied source g sibling).WellFormed := by
  rcases linkImplied_cases source sibling g with heq | ⟨link, -, -, heq⟩
  · rw [heq]
    exact h
  · rw [heq]
    exact h.addEdge _ _ _ _

/-- The whole pass keeps the graph well formed and leaves the edges for imports alone. -/
theorem linkAllImplied_spec (batch : List Candidate) {g : Graph} (h : g.WellFormed) :
    (linkAllImplied batch g).WellFormed ∧ importEdges (linkAllImplied batch g) = importEdges g := by
  refine List.foldlRecOn (motive := fun g' => g'.WellFormed ∧ importEdges g' = importEdges g)
    batch _ ⟨h, rfl⟩ ?_
  intro g' hg' source _
  refine List.foldlRecOn (motive := fun g' => g'.WellFormed ∧ importEdges g' = importEdges g)
    batch _ hg' ?_
  intro g'' hg'' sibling _
  exact ⟨hg''.1.linkImplied source sibling,
    (importEdges_linkImplied source sibling g'').trans hg''.2⟩

end

/-! ## The account -/

section

variable {ν : Type}

/-- The graph of a resolution and its list account for every import of the files. -/
structure Accounts (outlines : List (Outline ν)) (r : Resolution) : Prop where
  /-- The weights of the edges for imports and the list make up all imports. -/
  total : ((importEdges r.graph).map (·.weight)).sum + r.unresolved.size
    = ((outlines.map fun o => o.imports.length).sum : Nat)
  /-- There is one edge at most between two identifiers. -/
  single : (r.graph.edges.toList.map Edge.ends).Nodup
  /-- The weight of an edge for imports is the number of imports that mean it. -/
  weight : ∀ e ∈ importEdges r.graph,
    e.weight = importsBetween (outlines.map .ofOutline) e.source e.target
  /-- There is such an edge where there is such an import, and nowhere else. -/
  shown : ∀ source target, 0 < importsBetween (outlines.map .ofOutline) source target
    ↔ ∃ e ∈ importEdges r.graph, e.ends = (source, target)
  /-- The list holds the imports that no tier matches, in the order of the files. -/
  unresolved : r.unresolved.toList = outlines.flatMap fun o =>
    (o.imports.filter fun i => Unmatched (outlines.map .ofOutline) (.ofOutline o) i).map fun i =>
      { target := i.target, file := o.path }
  /-- Each is labelled with the path of its file, as it was given, and with its module. -/
  labels : r.labels = outlines.flatMap fun o =>
    (o.imports.filter fun i => Unmatched (outlines.map .ofOutline) (.ofOutline o) i).map fun i =>
      o.path ++ ": " ++ i.target

theorem length_declared (outlines : List (Outline ν)) :
    (declared (outlines.map .ofOutline)).length
      = (outlines.map fun o => o.imports.length).sum := by
  rw [declared, List.length_flatMap, List.map_map]
  refine congrArg List.sum (List.map_congr_left fun o _ => ?_)
  exact List.length_map ..

theorem unmatchedIn_declared (batch : List Candidate) (outlines : List (Outline ν)) :
    unmatchedIn batch (declared (outlines.map .ofOutline))
      = outlines.flatMap fun o =>
        (o.imports.filter fun i => Unmatched batch (.ofOutline o) i).map fun i =>
          { target := i.target, file := o.path } := by
  rw [unmatchedIn, declared, List.flatMap_map, List.filter_flatMap, List.map_flatMap]
  refine List.flatMap_congr fun o _ => ?_
  rw [List.filter_map, List.map_map]
  rfl

/-- **ACCOUNTING**: every import of every file is in the weight of an edge or in the list, once. -/
theorem resolve_accounts (outlines : List (Outline ν)) :
    Accounts outlines (resolve outlines) := by
  have hnamed := named_ofOutline outlines
  have hcounted := counted_ofImports hnamed
  have himplied := linkAllImplied_spec (outlines.map .ofOutline) hcounted.wellFormed
  -- The first pass makes no other edges, and the second one leaves these alone.
  have hedges : importEdges (resolve outlines).graph
      = (Resolution.ofImports (outlines.map .ofOutline)).graph.edges.toList := by
    refine himplied.2.trans (List.filter_eq_self.mpr fun e he => ?_)
    exact decide_eq_true (hcounted.kinds e (Array.mem_toList_iff.mp he))
  have hlist : (resolve outlines).unresolved.toList
      = unmatchedIn (outlines.map .ofOutline) (declared (outlines.map .ofOutline)) :=
    hcounted.unresolved
  refine ⟨?_, himplied.1.edgeIndex.nodup, ?_, ?_, ?_, ?_⟩
  · rw [hedges, hcounted.tally.sum_weight hcounted.wellFormed.edgeIndex.nodup,
      ← Array.length_toList, hlist, ← length_declared, ← length_filterMap_asked, Int.natCast_add]
  · rw [hedges]
    intro e he
    rw [importsBetween_eq_count]
    exact hcounted.tally.weight e he
  · intro source target
    rw [hedges, importsBetween_eq_count, List.count_pos_iff]
    exact hcounted.tally.mem_iff (source, target)
  · rw [hlist, unmatchedIn_declared]
  · rw [Resolution.labels, hlist, unmatchedIn_declared, List.map_flatMap]
    refine List.flatMap_congr fun o _ => ?_
    rw [List.map_map]
    rfl

end

end SourceAtlas
