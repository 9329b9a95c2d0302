import SourceAtlas.Proofs.Search.Course

/-! # The walk of a cycle search through a graph

    What holds in every state in which the search of a graph makes a step
    (`Search.IsWalk`): the path leads along edges and meets no node twice, each
    of its nodes has the rest of its own targets to offer, the positions are
    those of the path, and whatever has been left leads only to what has been
    entered.  So the step finds what it looks up (`Search.LooksUp`).

    Together with the edges that are taken, each of them once and, without a
    limit, all of them, this is what a search does in any graph that calls can
    make (`isWalked_after`). -/

namespace SourceAtlas

variable {α ω : Type}

/-! ## What holds in every state -/

/-- The path and what belongs to it, in a state of the search of a graph. -/
structure Search.IsWalk (g : Graph α ω) (s : Search) : Prop where
  /-- There is one list of targets for each node of the path. -/
  length_eq : s.frontier.length = s.path.size
  /-- A node has the last ones of its targets yet to offer. -/
  offers : List.Forall₂ (fun u pending => pending <:+ g.targets u) s.path.toList.reverse s.frontier
  /-- The positions are those of the nodes of the path. -/
  position : ∀ (v : String) (i : Nat), s.position[v]? = some i ↔ s.path[i]? = some v
  nodup : s.path.toList.Nodup
  entered : ∀ v ∈ s.path, v ∈ s.visited
  /-- Each node of the path is joined to the next one. -/
  joined : s.path.toList.IsChain g.Joined
  /-- What has been left leads only to what has been entered. -/
  left : ∀ u ∈ s.visited, u ∉ s.path → ∀ v, g.Joined u v → v ∈ s.visited

/-- The next step finds whatever it looks up. -/
structure Search.LooksUp (g : Graph α ω) (s : Search) : Prop where
  /-- A node that is left stands at the end of the path and has a position. -/
  leaves : ∀ frontier, s.frontier = [] :: frontier →
    ∃ u, s.path.back? = some u ∧ u ∈ s.position
  /-- A successor has an entry in the adjacency. -/
  known : ∀ v pending frontier, s.frontier = (v :: pending) :: frontier → v ∈ g.adjacency
  /-- A position is one of the path. -/
  within : ∀ (v : String) (start : Nat), s.position[v]? = some start → start < s.path.size

namespace Graph

/-- The states in which the search makes its steps, in order. -/
def course (g : Graph α ω) (limit : Option Nat) : List Search :=
  Search.courseFrom g.adjacency limit g.searchFuel g.nodeIds {}

/-- The edges that the search takes, in order. -/
def walkedEdges (g : Graph α ω) (limit : Option Nat) : List (String × String) :=
  (g.course limit).filterMap Search.edge?

/-- What the search of a graph does, from the first root to the last step. -/
structure IsWalked (g : Graph α ω) (limit : Option Nat) : Prop where
  /-- Every root has an entry in the adjacency. -/
  roots : ∀ v ∈ g.nodeIds, v ∈ g.adjacency
  walk : ∀ s ∈ g.course limit, s.IsWalk g
  looksUp : ∀ s ∈ g.course limit, s.LooksUp g
  /-- No edge is taken twice. -/
  once : (g.walkedEdges limit).Nodup
  joined : ∀ p ∈ g.walkedEdges limit, g.Joined p.1 p.2
  /-- Without a limit every edge is taken. -/
  taken : limit = none → ∀ u v, g.Joined u v → (u, v) ∈ g.walkedEdges limit
  /-- The states lead to what the search comes to. -/
  outcome_eq : Search.outcome g.adjacency (g.course limit) {} = g.search limit
  /-- The search ends with an empty path, or with enough cycles. -/
  ended : (g.search limit).frontier = [] ∨ (g.search limit).isFull limit = true

end Graph

/-- Every node has an entry in the adjacency. -/
theorem Graph.mem_adjacency {g : Graph α ω} {v : String} (hv : v ∈ g.nodeIds) :
    v ∈ g.adjacency := by
  rw [Std.HashMap.mem_iff_isSome_getElem?, getElem?_adjacency, if_pos hv]
  rfl

namespace Search

open SourceAtlas.Graph (Adjacency)

variable {adj : Adjacency} {nodes finished : List String} {s : Search}

/-- Each node of the path has the last ones of its successors yet to offer. -/
theorem Frames.forall₂ {done : String → String → Prop} {child : Option String}
    {stack : List String} {frontier : List (List String)}
    (h : Frames adj done child stack frontier) :
    List.Forall₂ (fun u pending => pending <:+ successors adj u) stack frontier := by
  induction stack generalizing child frontier with
  | nil =>
      cases frontier with
      | nil => exact .nil
      | cons pending frontier => exact nomatch h
  | cons u stack ih =>
      cases frontier with
      | nil => exact nomatch h
      | cons pending frontier =>
          obtain ⟨⟨taken, hsplit, -, -⟩, hrest⟩ := h
          exact .cons ⟨taken, hsplit.symm⟩ (ih hrest)

namespace Inv

variable {g : Graph α ω}

theorem isWalk (h : g.WellFormed) (hinv : Inv g.adjacency g.nodeIds finished none s) :
    s.IsWalk g := by
  have hposition : ∀ (v : String) (i : Nat), s.position[v]? = some i ↔ s.path[i]? = some v := by
    intro v i
    rw [hinv.position v i, Option.map_id]
    rfl
  have hoffers := hinv.frames.forall₂
  simp only [h.successors_adjacency] at hoffers
  have hchain : s.path.toList.IsChain (Leads g.adjacency) :=
    List.isChain_reverse.mp hinv.frames.isChain
  have hnodup := hinv.position.nodup
  rw [List.map_id] at hnodup
  refine {
    length_eq := ?_
    offers := hoffers
    position := hposition
    nodup := hnodup
    entered := fun v hv => (hinv.visited v).mpr (Or.inl hv)
    joined := h.leads_eq ▸ hchain
    left := ?_ }
  · rw [← hoffers.length_eq, List.length_reverse, Array.length_toList]
  · intro u hu hoff v huv
    have hfin : u ∈ finished := ((hinv.visited u).mp hu).resolve_left hoff
    rcases hinv.settled.mem_or_closes hfin (h.leads_iff.mpr huv) with hv | hv
    · exact (hinv.visited v).mpr (Or.inr hv)
    · exact hv.1

theorem looksUp (h : g.WellFormed) (hinv : Inv g.adjacency g.nodeIds finished none s) :
    s.LooksUp g where
  leaves := by
    intro frontier hf
    obtain ⟨u, hu⟩ := hinv.exists_current hf
    exact ⟨u, hu, hinv.mem_position_iff.mpr (Array.mem_of_back? hu)⟩
  known := by
    intro v pending frontier hf
    obtain ⟨u, hu⟩ := hinv.exists_current hf
    exact Graph.mem_adjacency (h.fits.mem u v ((hinv.advance hf).leads hu))
  within := by
    intro v start hv
    exact (Array.getElem?_eq_some_iff.mp (((hinv.isWalk h).position v start).mp hv)).1

end Inv

end Search

namespace Graph

open SourceAtlas.Search

variable {g : Graph α ω} {limit : Option Nat}

/-! ## The edges that are taken -/

theorem nodup_targetsIn {edges : List (Edge α ω)} (h : (edges.map Edge.ends).Nodup) (id : String) :
    ((targetsIn edges id).map (id, ·)).Nodup := by
  have hends : (targetsIn edges id).map (id, ·)
      = (edges.filter fun e => e.source = id).map Edge.ends := by
    rw [targetsIn, List.map_map]
    refine List.map_congr_left fun e he => ?_
    rw [← of_decide_eq_true (List.mem_filter.mp he).2]
    rfl
  rw [hends]
  exact h.sublist (List.filter_sublist.map _)

theorem untakenEdges_start (g : Graph α ω) (adj : Adjacency) :
    untakenEdges adj g.nodeIds {} = g.nodeIds.flatMap fun v => (successors adj v).map (v, ·) := by
  have hfresh : fresh g.nodeIds {} = g.nodeIds := by
    refine List.filter_eq_self.mpr fun v _ => ?_
    simp
  rw [untakenEdges, hfresh]
  rfl

namespace WellFormed

/-- The edges at the start are those of the graph, each of them once. -/
theorem nodup_untakenEdges (h : g.WellFormed) : (untakenEdges g.adjacency g.nodeIds {}).Nodup := by
  simp only [untakenEdges_start, h.successors_adjacency]
  refine List.nodup_flatMap.mpr ⟨fun v _ => nodup_targetsIn h.edgeIndex.nodup v, ?_⟩
  refine (List.nodup_iff_pairwise_ne.mp h.nodeIndex.nodup).imp fun {v w} hne p hv hw => ?_
  obtain ⟨x, -, rfl⟩ := List.mem_map.mp hv
  obtain ⟨y, -, hy⟩ := List.mem_map.mp hw
  exact hne (congrArg Prod.fst hy).symm

theorem mem_untakenEdges_iff (h : g.WellFormed) {u v : String} :
    (u, v) ∈ untakenEdges g.adjacency g.nodeIds {} ↔ g.Joined u v := by
  rw [untakenEdges_start, List.mem_flatMap, ← h.leads_iff]
  constructor
  · rintro ⟨w, -, hw⟩
    obtain ⟨x, hx, heq⟩ := List.mem_map.mp hw
    obtain ⟨rfl, rfl⟩ := Prod.mk.inj heq
    exact hx
  · intro huv
    obtain ⟨e, he, hends⟩ := h.leads_iff.mp huv
    have hsource : e.source = u := congrArg Prod.fst hends
    exact ⟨u, hsource ▸ (h.ends_mem he).2.1, List.mem_map.mpr ⟨v, huv, rfl⟩⟩

/-- What the search takes and what it leaves are the edges of the graph. -/
theorem perm_walkedEdges (h : g.WellFormed) (limit : Option Nat) :
    (untakenEdges g.adjacency g.nodeIds {}).Perm
      (g.walkedEdges limit ++ untakenEdges g.adjacency g.nodeIds (g.search limit)) :=
  perm_untakenEdges_courseFrom h.fits (length_lt_searchFuel g) (fun _ hv => hv)
    (h.rested_start limit)

/-- Nothing is left when every node has been entered and the path is empty. -/
theorem untakenEdges_search (h : g.WellFormed) :
    untakenEdges g.adjacency g.nodeIds (g.search none) = [] := by
  have hfresh : fresh g.nodeIds (g.search none) = [] := by
    refine List.eq_nil_iff_forall_not_mem.mpr fun v hv => ?_
    obtain ⟨hnode, hnew⟩ := mem_fresh.mp hv
    exact hnew (mem_visited_foldl _ _ v hnode)
  have hfrontier := (h.rested_search none).ended.resolve_right Bool.false_ne_true
  rw [untakenEdges, hfresh, hfrontier, offered, List.zip_nil_right]
  rfl

end WellFormed

/-! ## The whole search -/

/-- The search has a walk wherever it makes a step, since every such state is one that a search can
    reach. -/
theorem WellFormed.isWalk_of_mem_course (h : g.WellFormed) {s : Search}
    (hs : s ∈ g.course limit) : s.IsWalk g ∧ s.LooksUp g := by
  have hreached := reached_of_mem_courseFrom h.fits (length_lt_searchFuel g) (fun _ hv => hv)
    (h.rested_start limit) .start hs
  obtain ⟨finished, hinv⟩ := (hreached.sound h.fits).walk
  exact ⟨hinv.isWalk h, hinv.looksUp h⟩

/-- **WALK**: whatever calls make a graph and whatever the limit is, the path, the frontier, the
    positions and the nodes entered belong together in every state in which the search makes a
    step, the step finds whatever it looks up, and no edge is taken twice in the whole search. -/
theorem isWalked_after [Label α] [Weight ω] (calls : List (Call α ω)) (limit : Option Nat) :
    (after calls).IsWalked limit := by
  have h : (after calls).WellFormed := WellFormed.after calls
  have hperm := h.perm_walkedEdges limit
  exact {
    roots := fun _ hv => mem_adjacency hv
    walk := fun _ hs => (h.isWalk_of_mem_course hs).1
    looksUp := fun _ hs => (h.isWalk_of_mem_course hs).2
    once := (hperm.nodup h.nodup_untakenEdges).of_append_left
    joined := fun _ hp =>
      h.mem_untakenEdges_iff.mp (hperm.mem_iff.mpr (List.mem_append_left _ hp))
    taken := by
      rintro rfl u v huv
      rw [h.untakenEdges_search, List.append_nil] at hperm
      exact hperm.mem_iff.mp (h.mem_untakenEdges_iff.mpr huv)
    outcome_eq := outcome_courseFrom (Nat.succ_ne_zero _) _ _
    ended := (h.rested_search limit).ended }

end Graph

end SourceAtlas
