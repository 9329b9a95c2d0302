import SourceAtlas.Proofs.Graph.Invariant

/-! # Looking things up in a graph

    What a well-formed graph answers.  Look-ups take paths in any spelling and
    agree with the lists of nodes and edges, and the adjacency gives each node
    the targets of its edges in the order of the edges.  `adjacency?` is the
    adjacency built edge by edge with a look-up that can fail; on a well-formed
    graph it never does.

    `Graph.Consistent` puts all of it together, and `consistent_after` says that
    every graph that calls can make has it. -/

namespace SourceAtlas.Graph

variable {α ω : Type}

/-! ## Nodes and edges -/

theorem mem_nodeIds {g : Graph α ω} {id : String} :
    id ∈ g.nodeIds ↔ ∃ n ∈ g.nodes, n.id = id := by
  rw [nodeIds, List.mem_map]
  exact exists_congr fun n => and_congr_left' Array.mem_toList_iff

namespace WellFormed

variable {g : Graph α ω}

theorem mem_nodeIndex (h : g.WellFormed) {id : String} : id ∈ g.nodeIndex ↔ id ∈ g.nodeIds :=
  h.nodeIndex.mem_iff.trans mem_nodeIds.symm

theorem hasNode_iff (h : g.WellFormed) (path : String) :
    g.hasNode path = true ↔ Path.normalize path ∈ g.nodeIds :=
  Std.HashMap.mem_iff_contains.symm.trans h.mem_nodeIndex

theorem hasEdge_iff (h : g.WellFormed) (s t : String) :
    g.hasEdge s t = true ↔ ∃ e ∈ g.edges, e.ends = (Path.normalize s, Path.normalize t) :=
  h.edgeIndex.contains_iff

theorem node?_eq_some_iff (h : g.WellFormed) (path : String) (n : Node α) :
    g.node? path = some n ↔ n ∈ g.nodes ∧ n.id = Path.normalize path :=
  h.nodeIndex.lookup_eq_some_iff

theorem edge?_eq_some_iff (h : g.WellFormed) (s t : String) (e : Edge α ω) :
    g.edge? s t = some e ↔ e ∈ g.edges ∧ e.ends = (Path.normalize s, Path.normalize t) :=
  h.edgeIndex.lookup_eq_some_iff

/-- Both ends of an edge are nodes, and they differ. -/
theorem ends_mem (h : g.WellFormed) {e : Edge α ω} (he : e ∈ g.edges) :
    e.source ≠ e.target ∧ e.source ∈ g.nodeIds ∧ e.target ∈ g.nodeIds := by
  obtain ⟨hne, hs, ht⟩ := (joins_iff g _ _).mp (h.joined e he)
  exact ⟨hne, h.mem_nodeIndex.mp hs, h.mem_nodeIndex.mp ht⟩

end WellFormed

/-! ## The adjacency -/

/-- The targets of the edges from a node, in the order of the edges. -/
def targetsIn (edges : List (Edge α ω)) (id : String) : List String :=
  (edges.filter (·.source = id)).map (·.target)

theorem targetsIn_cons_self (e : Edge α ω) (rest : List (Edge α ω)) :
    targetsIn (e :: rest) e.source = e.target :: targetsIn rest e.source := by
  simp [targetsIn]

theorem targetsIn_cons_of_ne {e : Edge α ω} {id : String} (h : e.source ≠ id)
    (rest : List (Edge α ω)) : targetsIn (e :: rest) id = targetsIn rest id := by
  simp [targetsIn, h]

/-- The targets of the edges of a graph from a node, in the order of the edges. -/
def targets (g : Graph α ω) (id : String) : List String :=
  targetsIn g.edges.toList id

/-- The target of an edge goes to the end of the list for its source, which has to be there. -/
def addTarget? (adj : Adjacency) (e : Edge α ω) : Option Adjacency :=
  adj[e.source]?.map fun found => adj.insert e.source (found ++ [e.target])

/-- The adjacency, edge by edge; there is none if an edge starts where no node is. -/
def adjacency? (g : Graph α ω) : Option Adjacency :=
  g.edges.toList.foldlM addTarget? (g.nodes.foldl (fun adj n => adj.insert n.id []) ∅)

/-- At first every node has an empty list, and nothing else has one. -/
theorem getElem?_foldl_insert_nil (nodes : List (Node α)) (adj : Adjacency) (id : String) :
    (nodes.foldl (fun adj n => adj.insert n.id []) adj)[id]?
      = if id ∈ nodes.map (·.id) then some [] else adj[id]? := by
  induction nodes generalizing adj with
  | nil => rfl
  | cons n rest ih =>
      rw [List.foldl_cons, ih, Std.HashMap.getElem?_insert, List.map_cons]
      by_cases hrest : id ∈ rest.map (·.id)
      · rw [if_pos hrest, if_pos (List.mem_cons_of_mem _ hrest)]
      · rw [if_neg hrest]
        by_cases hn : n.id = id
        · rw [if_pos (beq_iff_eq.mpr hn), if_pos (hn ▸ List.mem_cons_self ..)]
        · rw [if_neg (fun hb => hn (beq_iff_eq.mp hb)), if_neg]
          intro hmem
          rcases List.mem_cons.mp hmem with heq | htail
          · exact hn heq.symm
          · exact hrest htail

/-- Edges from the last to the first put their targets in front. -/
theorem getElem?_foldr_modify (edges : List (Edge α ω)) (adj : Adjacency) (id : String) :
    (edges.foldr (fun e adj => adj.modify e.source (e.target :: ·)) adj)[id]?
      = adj[id]?.map (targetsIn edges id ++ ·) := by
  induction edges with
  | nil => exact (Option.map_id' ..).symm
  | cons e rest ih =>
      rw [List.foldr_cons, Std.HashMap.getElem?_modify]
      by_cases he : e.source = id
      · subst he
        rw [if_pos BEq.rfl, ih, Option.map_map, targetsIn_cons_self]
        rfl
      · rw [if_neg (fun hb => he (beq_iff_eq.mp hb)), ih, targetsIn_cons_of_ne he]

/-- Edges from the first to the last put their targets behind, and no look-up fails if their
    sources are there. -/
theorem foldlM_addTarget? (edges : List (Edge α ω)) (adj : Adjacency)
    (h : ∀ e ∈ edges, e.source ∈ adj) :
    ∃ adj', edges.foldlM addTarget? adj = some adj'
      ∧ ∀ id : String, adj'[id]?
        = adj[id]?.map (· ++ targetsIn edges id) := by
  induction edges generalizing adj with
  | nil =>
      refine ⟨adj, rfl, ?_⟩
      intro id
      simp [targetsIn]
  | cons e rest ih =>
      obtain ⟨found, hfound⟩ := Option.isSome_iff_exists.mp
        (Std.HashMap.mem_iff_isSome_getElem?.mp (h e (List.mem_cons_self ..)))
      have hstep : addTarget? adj e = some (adj.insert e.source (found ++ [e.target])) := by
        rw [addTarget?, hfound, Option.map_some]
      obtain ⟨adj', hadj', hget⟩ := ih (adj.insert e.source (found ++ [e.target]))
        (fun e' he' => Std.HashMap.mem_insert.mpr
          (Or.inr (h e' (List.mem_cons_of_mem _ he'))))
      refine ⟨adj', ?_, ?_⟩
      · rw [List.foldlM_cons, hstep]
        exact hadj'
      · intro id
        rw [hget, Std.HashMap.getElem?_insert]
        by_cases he : e.source = id
        · subst he
          rw [if_pos BEq.rfl, hfound, Option.map_some, Option.map_some,
            targetsIn_cons_self, List.append_assoc]
          rfl
        · rw [if_neg (fun hb => he (beq_iff_eq.mp hb)), targetsIn_cons_of_ne he]

theorem getElem?_noTargets (g : Graph α ω) (id : String) :
    (g.nodes.foldl (fun adj n => adj.insert n.id []) (∅ : Adjacency))[id]?
      = if id ∈ g.nodeIds then some [] else none := by
  rw [← Array.foldl_toList, getElem?_foldl_insert_nil, Std.HashMap.getElem?_empty]
  rfl

/-- Each node, and nothing else, has the targets of its edges in their order. -/
theorem getElem?_adjacency (g : Graph α ω) (id : String) :
    g.adjacency[id]? = if id ∈ g.nodeIds then some (g.targets id) else none := by
  rw [adjacency, ← Array.foldr_toList, getElem?_foldr_modify, getElem?_noTargets]
  by_cases hid : id ∈ g.nodeIds
  · rw [if_pos hid, if_pos hid, Option.map_some, List.append_nil]
    rfl
  · rw [if_neg hid, if_neg hid, Option.map_none]

/-- No look-up fails while the adjacency of a well-formed graph is built. -/
theorem WellFormed.adjacency?_eq {g : Graph α ω} (h : g.WellFormed) :
    ∃ adj, g.adjacency? = some adj ∧ ∀ id : String, adj[id]? = g.adjacency[id]? := by
  obtain ⟨adj, hadj, hget⟩ := foldlM_addTarget? g.edges.toList
    (g.nodes.foldl (fun adj n => adj.insert n.id []) ∅) (by
      intro e he
      rw [Std.HashMap.mem_iff_isSome_getElem?, getElem?_noTargets,
        if_pos (h.ends_mem (Array.mem_toList_iff.mp he)).2.1]
      rfl)
  refine ⟨adj, hadj, ?_⟩
  intro id
  rw [hget, getElem?_noTargets, getElem?_adjacency]
  by_cases hid : id ∈ g.nodeIds
  · rw [if_pos hid, if_pos hid, Option.map_some, List.nil_append]
    rfl
  · rw [if_neg hid, if_neg hid, Option.map_none]

/-! ## All of it together -/

/-- The lists, the indexes and the answers of a graph belong together. -/
structure Consistent (g : Graph α ω) : Prop where
  /-- Identifiers are canonical paths. -/
  normal : ∀ n ∈ g.nodes, Path.normalize n.id = n.id
  /-- No identifier occurs twice. -/
  nodeIds_nodup : g.nodeIds.Nodup
  /-- Edges join two different nodes that are there. -/
  ends_mem : ∀ e ∈ g.edges,
    e.source ≠ e.target ∧ e.source ∈ g.nodeIds ∧ e.target ∈ g.nodeIds
  /-- No two nodes are joined twice in one direction. -/
  ends_nodup : (g.edges.toList.map Edge.ends).Nodup
  /-- The index of nodes has the places of the nodes and nothing else. -/
  nodeIndex : ∀ id i, g.nodeIndex[id]? = some i ↔ g.nodes[i]?.map Node.id = some id
  /-- The index of edges has the places of the edges and nothing else. -/
  edgeIndex : ∀ ends i, g.edgeIndex[ends]? = some i ↔ g.edges[i]?.map Edge.ends = some ends
  hasNode_iff : ∀ path, g.hasNode path = true ↔ Path.normalize path ∈ g.nodeIds
  hasEdge_iff : ∀ s t, g.hasEdge s t = true
    ↔ ∃ e ∈ g.edges, e.ends = (Path.normalize s, Path.normalize t)
  /-- The spelling of a path does not matter for nodes. -/
  hasNode_respelled : ∀ p q, Path.Respells p q → g.hasNode p = g.hasNode q
  /-- The spelling of paths does not matter for edges. -/
  hasEdge_respelled : ∀ p q p' q', Path.Respells p q → Path.Respells p' q' →
    g.hasEdge p p' = g.hasEdge q q'
  /-- Building the adjacency never looks up what is not there. -/
  adjacency?_eq : ∃ adj, g.adjacency? = some adj ∧ ∀ id : String, adj[id]? = g.adjacency[id]?
  /-- The adjacency lists every edge once, under its source and in the order of the edges. -/
  adjacency_eq : ∀ id : String,
    g.adjacency[id]? = if id ∈ g.nodeIds then some (g.targets id) else none

/-- **CONSISTENCY**: whatever calls make a graph, its lists, indexes and answers belong
    together. -/
theorem consistent_after [Label α] [Weight ω] (calls : List (Call α ω)) :
    (after calls).Consistent := by
  have h : (after calls).WellFormed := WellFormed.after calls
  exact {
    normal := h.normal
    nodeIds_nodup := h.nodeIndex.nodup
    ends_mem := fun e he => h.ends_mem he
    ends_nodup := h.edgeIndex.nodup
    nodeIndex := h.nodeIndex
    edgeIndex := h.edgeIndex
    hasNode_iff := h.hasNode_iff
    hasEdge_iff := h.hasEdge_iff
    hasNode_respelled := by
      intro p q hpq
      rw [hasNode, hasNode, Path.normalize_eq_of_respells hpq]
    hasEdge_respelled := by
      intro p q p' q' hpq hpq'
      rw [hasEdge, hasEdge, Path.normalize_eq_of_respells hpq,
        Path.normalize_eq_of_respells hpq']
    adjacency?_eq := h.adjacency?_eq
    adjacency_eq := getElem?_adjacency _ }

end SourceAtlas.Graph
