import Mathlib.Data.List.Induction
import SourceAtlas.Proofs.Graph.Tally

/-! # A graph recounts its calls

    Whatever calls of `addNode` and `addEdge` made a graph, it can be read off
    them without running them.  The nodes are those that were asked for, each as
    it was asked for first.  A call for an edge is taken if its ends differ and
    both were added before it (`takenEdges`), and the graph has one edge for all
    calls that were taken for the same ends: with the kind of the first and the
    sum of the weights, at the place of the first.

    `Recounted` is the invariant, and `recounts_after` says it of every
    history. -/

namespace SourceAtlas

/-- Each item of a list with those in front of it, which come after the items `before`. -/
def situated {β : Type} : (before : List β) → List β → List (List β × β)
  | _, [] => []
  | before, c :: rest => (before, c) :: situated (before ++ [c]) rest

theorem situated_concat {β : Type} (before cs : List β) (c : β) :
    situated before (cs ++ [c]) = situated before cs ++ [(before ++ cs, c)] := by
  induction cs generalizing before with
  | nil => rw [List.append_nil]; rfl
  | cons d rest ih =>
      rw [List.cons_append, situated, situated, ih, List.append_assoc]
      rfl

/-- An item stands behind a part of the list. -/
theorem mem_situated_iff {β : Type} {cs front : List β} {c : β} :
    (front, c) ∈ situated [] cs ↔ ∃ after, cs = front ++ c :: after := by
  induction cs using List.reverseRecOn with
  | nil => simp [situated]
  | append_singleton cs d ih =>
      rw [situated_concat, List.mem_append, ih, List.mem_singleton, List.nil_append]
      constructor
      · rintro (⟨after, rfl⟩ | hlast)
        · exact ⟨after ++ [d], by rw [List.append_assoc, List.cons_append]⟩
        · obtain ⟨rfl, rfl⟩ := Prod.mk.inj hlast
          exact ⟨[], rfl⟩
      · rintro ⟨after, hafter⟩
        rcases List.eq_nil_or_concat' after with rfl | ⟨after, e, rfl⟩
        · obtain ⟨rfl, hlast⟩ := List.append_inj' hafter rfl
          exact Or.inr (by rw [List.singleton_inj.mp hlast])
        · rw [← List.cons_append, ← List.append_assoc] at hafter
          exact Or.inl ⟨after, (List.append_inj' hafter rfl).1⟩

namespace Graph

variable {α : Type}

/-! ## What calls ask for -/

/-- A call that adds a node or an edge. -/
inductive Addition (α : Type) where
  | node (path : String) (label language : α)
  | edge (source target : String) (kind : α) (weight : Int)

/-- An addition as a call. -/
def Addition.call : Addition α → Call α Int
  | node path label language => .addNode path label language
  | edge source target kind weight => .addEdge source target kind weight

section

variable [Label α]

/-- The node that a call asks for. -/
def Addition.node? : Addition α → Option (Node α)
  | node path label language => some (newNode path label language)
  | edge .. => none

/-- The nodes that calls ask for, in order. -/
def addedNodes (cs : List (Addition α)) : List (Node α) := cs.filterMap Addition.node?

/-- Between these paths an edge can be added: they are different files, and both were added. -/
def Joinable (cs : List (Addition α)) (source target : String) : Prop :=
  Path.normalize source ≠ Path.normalize target
    ∧ Path.normalize source ∈ (addedNodes cs).map (·.id)
    ∧ Path.normalize target ∈ (addedNodes cs).map (·.id)

instance (cs : List (Addition α)) (source target : String) :
    Decidable (Joinable cs source target) :=
  inferInstanceAs (Decidable (_ ∧ _ ∧ _))

/-- The edge that a call asks for, if it is taken after the calls `before`. -/
def Addition.edgeAfter? (before : List (Addition α)) : Addition α → Option (Edge α)
  | node .. => none
  | edge source target kind weight =>
    if Joinable before source target then
      some ⟨Path.normalize source, Path.normalize target, kind, weight⟩
    else none

/-- The edges that were asked for by calls that are taken, in order. -/
def takenEdges (cs : List (Addition α)) : List (Edge α) :=
  (situated [] cs).filterMap fun (before, c) => c.edgeAfter? before

theorem addedNodes_concat (cs : List (Addition α)) (c : Addition α) :
    addedNodes (cs ++ [c]) = addedNodes cs ++ c.node?.toList := by
  rw [addedNodes, List.filterMap_append]
  cases c <;> rfl

theorem takenEdges_concat (cs : List (Addition α)) (c : Addition α) :
    takenEdges (cs ++ [c]) = takenEdges cs ++ (c.edgeAfter? cs).toList := by
  rw [takenEdges, situated_concat, List.filterMap_append, List.nil_append, takenEdges]
  cases h : c.edgeAfter? cs <;> simp [h]

/-- The nodes that were added are named by the calls. -/
theorem mem_addedNodes_iff {cs : List (Addition α)} {id : String} :
    id ∈ (addedNodes cs).map (·.id)
      ↔ ∃ path label language, Addition.node path label language ∈ cs
        ∧ Path.normalize path = id := by
  rw [List.mem_map]
  constructor
  · rintro ⟨n, hn, rfl⟩
    obtain ⟨c, hc, hcn⟩ := List.mem_filterMap.mp hn
    cases c with
    | node path label language =>
        exact ⟨path, label, language, hc, by rw [← Option.some.inj hcn]; rfl⟩
    | edge => exact nomatch hcn
  · rintro ⟨path, label, language, hc, rfl⟩
    exact ⟨_, List.mem_filterMap.mpr ⟨_, hc, rfl⟩, rfl⟩

/-! ## The invariant -/

/-- The graph says what the calls asked for. -/
structure Recounted (cs : List (Addition α)) (g : Graph α) : Prop where
  wellFormed : g.WellFormed
  nodeOrder : g.nodeIds = ((addedNodes cs).map (·.id)).eraseDups
  nodes : ∀ n ∈ g.nodes, (addedNodes cs).find? (·.id = n.id) = some n
  edgeOrder : g.edges.toList.map Edge.ends = ((takenEdges cs).map Edge.ends).eraseDups
  weights : Sums ((takenEdges cs).map fun e => (e.ends, e.weight)) g.edges.toList
  kinds : FirstKinds ((takenEdges cs).map fun e => (e.ends, e.kind)) g.edges.toList

namespace Recounted

variable {cs : List (Addition α)} {g : Graph α}

theorem empty : Recounted ([] : List (Addition α)) .empty where
  wellFormed := WellFormed.empty
  nodeOrder := rfl
  nodes := fun _ h => nomatch h
  edgeOrder := rfl
  weights := Sums.nil
  kinds := fun _ h => nomatch h

theorem mem_nodeIndex_iff (h : Recounted cs g) {id : String} :
    id ∈ g.nodeIndex ↔ id ∈ (addedNodes cs).map (·.id) := by
  rw [h.wellFormed.mem_nodeIndex, h.nodeOrder, List.mem_eraseDups]

/-- The graph takes an edge between the paths that the calls have joined. -/
theorem accepts_iff (h : Recounted cs g) (source target : String) :
    g.accepts source target = true ↔ Joinable cs source target := by
  rw [accepts, joins_iff, h.mem_nodeIndex_iff, h.mem_nodeIndex_iff]
  exact Iff.rfl

/-- One more call for a node. -/
theorem addNode (h : Recounted cs g) (path : String) (label language : α) :
    Recounted (cs ++ [.node path label language]) (g.addNode path label language) := by
  have hwf := h.wellFormed.addNode path label language
  have hadded : addedNodes (cs ++ [.node path label language])
      = addedNodes cs ++ [newNode path label language] := addedNodes_concat ..
  have htaken : takenEdges (cs ++ [.node path label language]) = takenEdges cs :=
    (takenEdges_concat ..).trans (List.append_nil _)
  rcases addNode_cases g path label language with ⟨hold, heq⟩ | ⟨hnew, heq⟩
  · rw [heq]
    rw [h.mem_nodeIndex_iff] at hold
    refine ⟨h.wellFormed, ?_, fun n hn => ?_, ?_, ?_, ?_⟩
    · rw [hadded, List.map_append, List.map_singleton, eraseDups_concat, if_pos, List.append_nil,
        h.nodeOrder]
      exact hold
    · rw [hadded, List.find?_append, h.nodes n hn, Option.some_or]
    · rw [htaken, h.edgeOrder]
    · rw [htaken]
      exact h.weights
    · rw [htaken]
      exact h.kinds
  · rw [heq] at hwf ⊢
    rw [h.mem_nodeIndex_iff] at hnew
    refine ⟨hwf, ?_, fun n hn => ?_, ?_, ?_, ?_⟩
    · rw [hadded, List.map_append, List.map_singleton, eraseDups_concat, if_neg, ← h.nodeOrder,
        nodeIds, Array.toList_push, List.map_append]
      · rfl
      · exact hnew
    · rw [hadded, List.find?_append]
      rcases Array.mem_push.mp hn with hn | rfl
      · rw [h.nodes n hn, Option.some_or]
      · have hnone : (addedNodes cs).find? (·.id = (newNode path label language).id) = none :=
          List.find?_eq_none.mpr fun n hn hid =>
            hnew (List.mem_map.mpr ⟨n, hn, of_decide_eq_true hid⟩)
        rw [hnone, Option.none_or, List.find?_singleton, if_pos (decide_eq_true rfl)]
    · rw [htaken]
      exact h.edgeOrder
    · rw [htaken]
      exact h.weights
    · rw [htaken]
      exact h.kinds

/-- One more call for an edge, which is taken. -/
theorem addEdge_of_joinable (h : Recounted cs g) {source target : String}
    (hj : Joinable cs source target) (kind : α) (weight : Int) :
    Recounted (cs ++ [.edge source target kind weight]) (g.addEdge source target kind weight) := by
  have ha := (h.accepts_iff source target).mpr hj
  have hadded : addedNodes (cs ++ [.edge source target kind weight]) = addedNodes cs :=
    (addedNodes_concat ..).trans (List.append_nil _)
  have htaken : takenEdges (cs ++ [.edge source target kind weight])
      = takenEdges cs ++ [⟨Path.normalize source, Path.normalize target, kind, weight⟩] := by
    rw [takenEdges_concat, Addition.edgeAfter?, if_pos hj]
    rfl
  have hnodes := g.nodes_addEdge source target kind weight
  have hasked : ((takenEdges cs).map fun e => (e.ends, e.kind)).map (·.1)
      = ((takenEdges cs).map fun e => (e.ends, e.weight)).map (·.1) := by
    rw [List.map_map, List.map_map]
    rfl
  refine ⟨h.wellFormed.addEdge .., ?_, ?_, ?_, ?_, ?_⟩
  · rw [nodeIds, hnodes.1, hadded]
    exact h.nodeOrder
  · rw [hnodes.1, hadded]
    exact h.nodes
  · rw [htaken, List.map_append]
    exact h.wellFormed.order_addEdge h.edgeOrder ha kind weight
  · rw [htaken, List.map_append]
    exact h.weights.addEdge h.wellFormed ha kind weight
  · rw [htaken, List.map_append]
    exact h.kinds.addEdge h.weights hasked h.wellFormed ha kind weight

/-- A call for an edge that is not taken. -/
theorem addEdge_of_not_joinable (h : Recounted cs g) {source target : String}
    (hj : ¬ Joinable cs source target) (kind : α) (weight : Int) :
    g.addEdge source target kind weight = g := by
  rw [← h.accepts_iff] at hj
  exact if_neg hj

/-- One more call. -/
theorem call (h : Recounted cs g) (c : Addition α) : Recounted (cs ++ [c]) (g.call c.call) := by
  cases c with
  | node path label language => exact h.addNode path label language
  | edge source target kind weight =>
      by_cases hj : Joinable cs source target
      · exact h.addEdge_of_joinable hj kind weight
      · have hadded : addedNodes (cs ++ [.edge source target kind weight]) = addedNodes cs :=
          (addedNodes_concat ..).trans (List.append_nil _)
        have htaken : takenEdges (cs ++ [.edge source target kind weight]) = takenEdges cs := by
          rw [takenEdges_concat, Addition.edgeAfter?, if_neg hj]
          exact List.append_nil _
        show Recounted _ (g.addEdge source target kind weight)
        rw [h.addEdge_of_not_joinable hj]
        obtain ⟨hwf, hnodeOrder, hnodes, hedgeOrder, hweights, hkinds⟩ := h
        rw [← hadded] at hnodeOrder hnodes
        rw [← htaken] at hedgeOrder hweights hkinds
        exact ⟨hwf, hnodeOrder, hnodes, hedgeOrder, hweights, hkinds⟩

/-- Any calls. -/
theorem after (cs : List (Addition α)) : Recounted cs (after (cs.map Addition.call)) := by
  induction cs using List.reverseRecOn with
  | nil => exact empty
  | append_singleton cs c ih =>
      rw [List.map_append, Graph.after, List.foldl_append]
      exact ih.call c

/-- The files that a file leads to, by the calls. -/
theorem getD_adjacency (h : Recounted cs g) {id : String} (hid : id ∈ (addedNodes cs).map (·.id)) :
    g.adjacency.getD id []
      = (((takenEdges cs).map Edge.ends).eraseDups.filter (·.1 = id)).map (·.2) := by
  have hnode : id ∈ g.nodeIds := by
    rw [h.nodeOrder, List.mem_eraseDups]
    exact hid
  rw [Std.HashMap.getD_eq_getD_getElem?, getElem?_adjacency, if_pos hnode, Option.getD_some,
    ← h.edgeOrder, List.filter_map, List.map_map]
  rfl

end Recounted

/-! ## The reading of a history -/

/-- A graph as its calls have it. -/
structure Recounts (cs : List (Addition α)) (g : Graph α) : Prop where
  /-- The nodes are in the order in which they were asked for first. -/
  nodeOrder : g.nodeIds = ((addedNodes cs).map (·.id)).eraseDups
  /-- Each node is as it was asked for first. -/
  node : ∀ n ∈ g.nodes, (addedNodes cs).find? (·.id = n.id) = some n
  /-- Two identifiers have an edge exactly if they differ and an edge was asked for between them
      after both were added. -/
  edge_iff : ∀ s t, (∃ e ∈ g.edges, e.ends = (s, t)) ↔
    s ≠ t ∧ ∃ before after source target kind weight,
      cs = before ++ .edge source target kind weight :: after
        ∧ Path.normalize source = s ∧ Path.normalize target = t
        ∧ (∃ p label language, .node p label language ∈ before ∧ Path.normalize p = s)
        ∧ ∃ p label language, .node p label language ∈ before ∧ Path.normalize p = t
  /-- The edges are in the order in which they were first taken. -/
  edgeOrder : g.edges.toList.map Edge.ends = ((takenEdges cs).map Edge.ends).eraseDups
  /-- An edge has the kind of the first call that was taken for its ends. -/
  kind : ∀ e ∈ g.edges, ∃ first, (takenEdges cs).find? (·.ends = e.ends) = some first
    ∧ first.kind = e.kind
  /-- An edge has the weight of all calls that were taken for its ends. -/
  weight : ∀ e ∈ g.edges,
    e.weight = (((takenEdges cs).filter (·.ends = e.ends)).map (·.weight)).sum
  /-- Any other call for an edge answers with none and leaves the graph as it is. -/
  refused : ∀ source target, ¬ Joinable cs source target → ∀ kind weight,
    g.addedEdge? source target kind weight = none ∧ g.addEdge source target kind weight = g

/-- The ends of edges that were taken. -/
theorem mem_ends_takenEdges_iff {cs : List (Addition α)} {s t : String} :
    (s, t) ∈ (takenEdges cs).map Edge.ends ↔ ∃ before after source target kind weight,
      cs = before ++ .edge source target kind weight :: after
        ∧ Path.normalize source = s ∧ Path.normalize target = t
        ∧ Joinable before source target := by
  rw [List.mem_map]
  constructor
  · rintro ⟨e, he, hends⟩
    obtain ⟨⟨before, c⟩, hc, hce⟩ := List.mem_filterMap.mp he
    obtain ⟨after, hafter⟩ := mem_situated_iff.mp hc
    cases c with
    | node => exact nomatch hce
    | edge source target kind weight =>
        obtain ⟨hj, hedge⟩ := Option.ite_none_right_eq_some.mp hce
        obtain rfl := Option.some.inj hedge
        obtain ⟨hs, ht⟩ := Prod.mk.inj hends
        exact ⟨before, after, source, target, kind, weight, hafter, hs, ht, hj⟩
  · rintro ⟨before, after, source, target, kind, weight, hcs, rfl, rfl, hj⟩
    refine ⟨⟨Path.normalize source, Path.normalize target, kind, weight⟩, ?_, rfl⟩
    exact List.mem_filterMap.mpr ⟨_, mem_situated_iff.mpr ⟨after, hcs⟩, if_pos hj⟩

/-- **A GRAPH RECOUNTS ITS CALLS**: which nodes and edges there are, in which order and with which
    kinds and weights, is said by the calls that made the graph. -/
theorem recounts_after (cs : List (Addition α)) : Recounts cs (after (cs.map Addition.call)) := by
  have h := Recounted.after cs
  generalize after (cs.map Addition.call) = g at h ⊢
  refine ⟨h.nodeOrder, h.nodes, ?_, h.edgeOrder, ?_, ?_, ?_⟩
  · intro s t
    have hends : (∃ e ∈ g.edges, e.ends = (s, t)) ↔ (s, t) ∈ (takenEdges cs).map Edge.ends := by
      rw [← List.mem_eraseDups, ← h.edgeOrder, List.mem_map]
      exact exists_congr fun e => and_congr_left' Array.mem_toList_iff.symm
    rw [hends, mem_ends_takenEdges_iff]
    simp only [Joinable, mem_addedNodes_iff]
    constructor
    · rintro ⟨before, after, source, target, kind, weight, hcs, rfl, rfl, hne, hs, ht⟩
      exact ⟨hne, before, after, source, target, kind, weight, hcs, rfl, rfl, hs, ht⟩
    · rintro ⟨hne, before, after, source, target, kind, weight, hcs, rfl, rfl, hs, ht⟩
      exact ⟨before, after, source, target, kind, weight, hcs, rfl, rfl, hne, hs, ht⟩
  · intro e he
    have hkind := h.kinds e (Array.mem_toList_iff.mpr he)
    rw [kindAsked?, List.find?_map, Option.map_map] at hkind
    exact Option.map_eq_some_iff.mp hkind
  · intro e he
    rw [h.weights.weight e (Array.mem_toList_iff.mpr he), weightAsked, List.filter_map,
      List.map_map]
    rfl
  · intro source target hj kind weight
    refine ⟨?_, h.addEdge_of_not_joinable hj kind weight⟩
    rw [← h.accepts_iff] at hj
    exact if_neg hj

end

end Graph

end SourceAtlas
