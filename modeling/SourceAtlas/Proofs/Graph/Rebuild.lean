import SourceAtlas.Proofs.Graph.Lookup

/-! # Building a graph again

    A graph can be built again from its lists of nodes and edges.  This adds them
    all once more, and nothing is changed on the way: a node of a graph was made
    complete when it was added (`Graph.Settled`), and an edge joins two nodes as no
    other edge does.  So the lists come out as they were (`same_rebuilt`).

    The indexes are made anew.  They need not be the same maps, but each is the
    index of the same array, and calls ask no more of them: two well-formed graphs
    with the same lists (`Same`) have the same lists after the same call
    (`Same.call`).  So by induction over the calls that follow, nobody can tell the
    two graphs apart (`agrees_rebuilt`). -/

namespace SourceAtlas

variable {α ω : Type}

namespace Graph

/-! ## Two graphs with the same lists -/

/-- Two well-formed graphs with the same nodes and the same edges. -/
structure Same (g g' : Graph α ω) : Prop where
  left : g.WellFormed
  right : g'.WellFormed
  nodes : g'.nodes = g.nodes
  edges : g'.edges = g.edges

namespace Same

variable {g g' : Graph α ω}

theorem refl (h : g.WellFormed) : Same g g := ⟨h, h, rfl, rfl⟩

theorem nodeIndex (h : Same g g') (id : String) : g'.nodeIndex[id]? = g.nodeIndex[id]? := by
  have hindex := h.right.nodeIndex
  rw [h.nodes] at hindex
  exact hindex.getElem?_eq h.left.nodeIndex id

theorem edgeIndex (h : Same g g') (ends : String × String) :
    g'.edgeIndex[ends]? = g.edgeIndex[ends]? := by
  have hindex := h.right.edgeIndex
  rw [h.edges] at hindex
  exact hindex.getElem?_eq h.left.edgeIndex ends

theorem contains_nodeIndex (h : Same g g') (id : String) :
    g'.nodeIndex.contains id = g.nodeIndex.contains id := by
  rw [Std.HashMap.contains_eq_isSome_getElem?, Std.HashMap.contains_eq_isSome_getElem?,
    h.nodeIndex]

theorem joins (h : Same g g') (s t : String) : g'.joins s t = g.joins s t := by
  rw [Graph.joins, Graph.joins, h.contains_nodeIndex, h.contains_nodeIndex]

/-! ### One call -/

theorem addNode [Label α] (h : Same g g') (path : String) (label language : α) :
    Same (g.addNode path label language) (g'.addNode path label language) := by
  have hknown := h.contains_nodeIndex (Path.normalize path)
  refine ⟨h.left.addNode path label language, h.right.addNode path label language, ?_, ?_⟩
  · simp only [Graph.addNode, hknown]
    split
    · exact h.nodes
    · exact congrArg (Array.push · _) h.nodes
  · simp only [Graph.addNode, hknown]
    split
    · exact h.edges
    · exact h.edges

theorem addEdge [Label α] [Weight ω] (h : Same g g') (source target : String) (kind : α)
    (weight : ω) : Same (g.addEdge source target kind weight)
      (g'.addEdge source target kind weight) := by
  refine ⟨h.left.addEdge source target kind weight, h.right.addEdge source target kind weight,
    ?_, ?_⟩
  · rw [(g.nodes_addEdge ..).1, (g'.nodes_addEdge ..).1, h.nodes]
  · simp only [Graph.addEdge, h.joins, h.edgeIndex]
    split
    · split
      · rw [h.edges]
      · rw [h.edges]
    · exact h.edges

/-- The same call leaves the same lists in both. -/
theorem call [Label α] [Weight ω] (h : Same g g') (c : Call α ω) :
    Same (g.call c) (g'.call c) := by
  cases c with
  | build nodes edges => exact refl (WellFormed.build nodes edges)
  | addNode path label language => exact h.addNode path label language
  | addEdge source target kind weight => exact h.addEdge source target kind weight

end Same

/-- The graph after more calls. -/
def continued [Label α] [Weight ω] (g : Graph α ω) (more : List (Call α ω)) : Graph α ω :=
  more.foldl call g

/-- Any number of calls. -/
theorem Same.continued [Label α] [Weight ω] {g g' : Graph α ω} (h : Same g g')
    (more : List (Call α ω)) : Same (g.continued more) (g'.continued more) := by
  induction more generalizing g g' with
  | nil => exact h
  | cons c rest ih => exact ih (h.call c)

/-! ## Settled nodes -/

/-- The nodes are as adding them would leave them: their identifiers are canonical, and a label is
    missing only where the file has no name. -/
def Settled [Label α] (g : Graph α ω) : Prop :=
  ∀ n ∈ g.nodes, newNode n.id n.label n.language = n

/-- A node that has been completed needs no more completion. -/
theorem newNode_newNode [Label α] (path : String) (label language : α) :
    newNode (newNode path label language).id (newNode path label language).label language
      = newNode path label language := by
  have hlabel : ∀ base : α,
      (if Label.isVoid (if Label.isVoid label then base else label) then base
        else if Label.isVoid label then base else label)
      = if Label.isVoid label then base else label := by
    intro base
    by_cases hvoid : Label.isVoid label = true
    · rw [if_pos hvoid, ite_self]
    · rw [if_neg hvoid, if_neg hvoid]
  simp only [newNode, Path.normalize_normalize, hlabel]

namespace Settled

variable [Label α] {g : Graph α ω}

theorem empty : (Graph.empty : Graph α ω).Settled := by
  intro n hn
  exact absurd hn (Array.not_mem_empty n)

theorem addNode (h : g.Settled) (path : String) (label language : α) :
    (g.addNode path label language).Settled := by
  rcases g.addNode_cases path label language with ⟨-, heq⟩ | ⟨-, heq⟩
  · rw [heq]
    exact h
  · rw [heq]
    intro n hn
    rcases Array.mem_push.mp hn with hold | rfl
    · exact h n hold
    · exact newNode_newNode path label language

theorem addEdge [Weight ω] (h : g.Settled) (source target : String) (kind : α) (weight : ω) :
    (g.addEdge source target kind weight).Settled := by
  unfold Settled
  rw [(g.nodes_addEdge source target kind weight).1]
  exact h

theorem build [Weight ω] (nodes : List (Node α)) (edges : List (Edge α ω)) :
    (build nodes edges).Settled := by
  have hnodes : (nodes.foldl (fun g n => g.addNode n.id n.label n.language)
      (Graph.empty : Graph α ω)).Settled :=
    List.foldlRecOn nodes _ empty fun _ hg n _ => hg.addNode n.id n.label n.language
  exact List.foldlRecOn edges _ hnodes fun _ hg e _ =>
    hg.addEdge e.source e.target e.kind e.weight

/-- One call keeps all nodes settled. -/
theorem call [Weight ω] (h : g.Settled) (c : Call α ω) : (g.call c).Settled := by
  cases c with
  | build nodes edges => exact build nodes edges
  | addNode path label language => exact h.addNode path label language
  | addEdge source target kind weight => exact h.addEdge source target kind weight

theorem after [Weight ω] (calls : List (Call α ω)) : (after calls).Settled :=
  List.foldlRecOn calls _ empty fun _ hg c _ => hg.call c

end Settled

/-! ## Adding what a graph has -/

/-- The index of nodes knows canonical paths only. -/
theorem WellFormed.normalize_of_mem {g : Graph α ω} (h : g.WellFormed) {id : String}
    (hid : id ∈ g.nodeIndex) : Path.normalize id = id := by
  obtain ⟨n, hn, rfl⟩ := h.nodeIndex.mem_iff.mp hid
  exact h.normal n hn

/-- Complete nodes that are not there yet are added as they are. -/
theorem foldl_addNode_of_new [Label α] {g : Graph α ω} (h : g.WellFormed) {nodes : List (Node α)}
    (hnew : (g.nodeIds ++ nodes.map (·.id)).Nodup)
    (hsettled : ∀ n ∈ nodes, newNode n.id n.label n.language = n) :
    (nodes.foldl (fun g n => g.addNode n.id n.label n.language) g).nodes.toList
        = g.nodes.toList ++ nodes
      ∧ (nodes.foldl (fun g n => g.addNode n.id n.label n.language) g).edges = g.edges := by
  induction nodes generalizing g with
  | nil => exact ⟨(List.append_nil _).symm, rfl⟩
  | cons n rest ih =>
      obtain ⟨hn, hrest⟩ := List.forall_mem_cons.mp hsettled
      have hid : Path.normalize n.id = n.id := congrArg Node.id hn
      rcases g.addNode_cases n.id n.label n.language with ⟨hold, -⟩ | ⟨-, heq⟩
      · rw [hid, h.mem_nodeIndex] at hold
        exact absurd rfl ((List.nodup_append.mp hnew).2.2 n.id hold n.id (List.mem_cons_self ..))
      · rw [hn] at heq
        have hids : (g.addNode n.id n.label n.language).nodeIds = g.nodeIds ++ [n.id] := by
          rw [heq, nodeIds, Array.toList_push, List.map_append]
          rfl
        obtain ⟨hnodes, hedges⟩ := ih (h.addNode n.id n.label n.language)
          (by rwa [hids, List.append_assoc]) hrest
        rw [List.foldl_cons, hnodes, hedges, heq, Array.toList_push, List.append_assoc]
        exact ⟨rfl, rfl⟩

/-- Edges that join two nodes as no other edge does are added as they are. -/
theorem foldl_addEdge_of_new [Label α] [Weight ω] {g : Graph α ω} (h : g.WellFormed)
    {edges : List (Edge α ω)} (hnew : ((g.edges.toList ++ edges).map Edge.ends).Nodup)
    (hjoined : ∀ e ∈ edges, g.joins e.source e.target = true) :
    (edges.foldl (fun g e => g.addEdge e.source e.target e.kind e.weight) g).edges.toList
        = g.edges.toList ++ edges
      ∧ (edges.foldl (fun g e => g.addEdge e.source e.target e.kind e.weight) g).nodes
        = g.nodes := by
  induction edges generalizing g with
  | nil => exact ⟨(List.append_nil _).symm, rfl⟩
  | cons e rest ih =>
      obtain ⟨hj, hrest⟩ := List.forall_mem_cons.mp hjoined
      obtain ⟨-, hs, ht⟩ := (joins_iff g _ _).mp hj
      have hsource : Path.normalize e.source = e.source := h.normalize_of_mem hs
      have htarget : Path.normalize e.target = e.target := h.normalize_of_mem ht
      rcases g.addEdge_cases e.source e.target e.kind e.weight with
        ⟨hno, -⟩ | ⟨-, -, heq⟩ | ⟨-, i, hi, -⟩
      · rw [accepts, hsource, htarget] at hno
        exact absurd (hj.symm.trans hno) nofun
      · rw [hsource, htarget] at heq
        have hstep := ih (h.addEdge e.source e.target e.kind e.weight)
          (by rwa [heq, Array.toList_push, List.append_assoc]) (by rw [heq]; exact hrest)
        rw [List.foldl_cons, hstep.1, hstep.2, heq, Array.toList_push, List.append_assoc]
        exact ⟨rfl, rfl⟩
      · -- The ends are taken already, which no list without repetitions allows.
        rw [hsource, htarget] at hi
        obtain ⟨known, hknown, hends⟩ := h.edgeIndex.mem_iff.mp
          (Std.HashMap.mem_iff_isSome_getElem?.mpr (Option.isSome_of_eq_some hi))
        rw [List.map_append, List.nodup_append] at hnew
        exact absurd hends (hnew.2.2 known.ends
          (List.mem_map_of_mem (Array.mem_toList_iff.mpr hknown)) e.ends (List.mem_cons_self ..))

/-! ## Building a graph again -/

/-- The graph that is built from the nodes and edges of a graph. -/
def rebuilt [Label α] [Weight ω] (g : Graph α ω) : Graph α ω :=
  build g.nodes.toList g.edges.toList

/-- The nodes and edges of a well-formed graph with settled nodes come out as they were. -/
theorem same_rebuilt [Label α] [Weight ω] {g : Graph α ω} (h : g.WellFormed)
    (hsettled : g.Settled) : Same g g.rebuilt := by
  -- First there are nodes only.
  have hbare : (build g.nodes.toList [] : Graph α ω).WellFormed := WellFormed.build ..
  have hnodes : (build g.nodes.toList [] : Graph α ω).nodes.toList = [] ++ g.nodes.toList ∧
      (build g.nodes.toList [] : Graph α ω).edges = #[] :=
    foldl_addNode_of_new WellFormed.empty h.nodeIndex.nodup
      fun n hn => hsettled n (Array.mem_toList_iff.mp hn)
  have hjoined : ∀ e ∈ g.edges.toList,
      (build g.nodes.toList [] : Graph α ω).joins e.source e.target = true := by
    intro e he
    obtain ⟨hne, hs, ht⟩ := h.ends_mem (Array.mem_toList_iff.mp he)
    rw [joins_iff, hbare.mem_nodeIndex, hbare.mem_nodeIndex, nodeIds, hnodes.1]
    exact ⟨hne, hs, ht⟩
  have hnew : (((build g.nodes.toList [] : Graph α ω).edges.toList
      ++ g.edges.toList).map Edge.ends).Nodup := by
    rw [hnodes.2]
    exact h.edgeIndex.nodup
  have hedges := foldl_addEdge_of_new hbare hnew hjoined
  refine ⟨h, WellFormed.build .., ?_, ?_⟩
  · exact hedges.2.trans (Array.toList_inj.mp hnodes.1)
  · refine Array.toList_inj.mp (hedges.1.trans ?_)
    rw [hnodes.2]
    rfl

/-- Two graphs that nobody can tell apart: they hold the same, and they answer alike. -/
structure Agrees [Label α] [Weight ω] (g g' : Graph α ω) : Prop where
  nodes : g'.nodes = g.nodes
  edges : g'.edges = g.edges
  report : g'.report = g.report
  adjacency : g'.adjacency = g.adjacency
  hasNode : ∀ path, g'.hasNode path = g.hasNode path
  hasEdge : ∀ source target, g'.hasEdge source target = g.hasEdge source target
  node? : ∀ path, g'.node? path = g.node? path
  edge? : ∀ source target, g'.edge? source target = g.edge? source target
  addedEdge? : ∀ source target kind weight,
    g'.addedEdge? source target kind weight = g.addedEdge? source target kind weight

theorem Same.agrees [Label α] [Weight ω] {g g' : Graph α ω} (h : Same g g') : Agrees g g' where
  nodes := h.nodes
  edges := h.edges
  report := by rw [report, report, h.nodes, h.edges]
  adjacency := by rw [adjacency, adjacency, h.nodes, h.edges]
  hasNode path := h.contains_nodeIndex (Path.normalize path)
  hasEdge source target := by
    rw [hasEdge, hasEdge, Std.HashMap.contains_eq_isSome_getElem?,
      Std.HashMap.contains_eq_isSome_getElem?, h.edgeIndex]
  node? path := by rw [node?, node?, h.nodeIndex, h.nodes]
  edge? source target := by rw [edge?, edge?, h.edgeIndex, h.edges]
  addedEdge? source target kind weight := by
    have hafter := h.addEdge source target kind weight
    rw [addedEdge?, addedEdge?, accepts, accepts, h.joins, edge?, edge?, hafter.edgeIndex,
      hafter.edges]

/-- **REBUILDING**: whatever calls made a graph, the graph that is built from its nodes and edges
    agrees with it, and so do the two after the same further calls. -/
theorem agrees_rebuilt [Label α] [Weight ω] (calls : List (Call α ω)) :
    Agrees (after calls) (after calls).rebuilt
      ∧ ∀ more, Agrees ((after calls).continued more) ((after calls).rebuilt.continued more) := by
  have hsame : Same (after calls) (after calls).rebuilt :=
    same_rebuilt (WellFormed.after calls) (Settled.after calls)
  exact ⟨hsame.agrees, fun more => (hsame.continued more).agrees⟩

end Graph

end SourceAtlas
