import SourceAtlas.Graph.Basic
import SourceAtlas.Proofs.Index
import SourceAtlas.Proofs.Path

/-! # The invariant of a dependency graph

    A graph is made by calls of `build`, `addNode` and `addEdge`, in any order
    and with any arguments (`Graph.Call`, `Graph.after`).  `Graph.WellFormed` is
    what each of them keeps: identifiers are canonical, an edge joins two
    different nodes, and each index is the index of its array.  That nothing
    occurs twice follows from the indexes. -/

namespace SourceAtlas

variable {α ω : Type}

/-- The two ends of an edge, which no other edge has. -/
def Edge.ends (e : Edge α ω) : String × String := (e.source, e.target)

/-- An edge with another weight added to its own, if they can be added. -/
def Edge.raised [Weight ω] (weight : ω) (e : Edge α ω) : Edge α ω :=
  { e with weight := (Weight.add? e.weight weight).getD e.weight }

theorem Edge.ends_raised [Weight ω] (weight : ω) (e : Edge α ω) :
    (e.raised weight).ends = e.ends := rfl

namespace Graph

/-- One call that makes or extends a graph. -/
inductive Call (α ω : Type) where
  | build (nodes : List (Node α)) (edges : List (Edge α ω))
  | addNode (path : String) (label language : α)
  | addEdge (source target : String) (kind : α) (weight : ω)

/-- The graph after one more call. -/
def call [Label α] [Weight ω] (g : Graph α ω) : Call α ω → Graph α ω
  | .build nodes edges => build nodes edges
  | .addNode path label language => g.addNode path label language
  | .addEdge source target kind weight => g.addEdge source target kind weight

/-- The graph after calls, from the empty one on. -/
def after [Label α] [Weight ω] (calls : List (Call α ω)) : Graph α ω :=
  calls.foldl call empty

/-- What every call keeps. -/
structure WellFormed (g : Graph α ω) : Prop where
  /-- Identifiers are canonical paths. -/
  normal : ∀ n ∈ g.nodes, Path.normalize n.id = n.id
  /-- Edges join two different nodes. -/
  joined : ∀ e ∈ g.edges, g.joins e.source e.target = true
  nodeIndex : IsIndex g.nodeIndex Node.id g.nodes
  edgeIndex : IsIndex g.edgeIndex Edge.ends g.edges

/-! ## What the calls do -/

theorem joins_iff (g : Graph α ω) (s t : String) :
    g.joins s t = true ↔ s ≠ t ∧ s ∈ g.nodeIndex ∧ t ∈ g.nodeIndex := by
  rw [joins, Bool.and_eq_true, Bool.and_eq_true, decide_eq_true_iff,
    Std.HashMap.mem_iff_contains, Std.HashMap.mem_iff_contains, and_assoc]

/-- The node that `addNode` makes for a path. -/
def newNode [Label α] (path : String) (label language : α) : Node α where
  id := Path.normalize path
  label := if Label.isVoid label then Label.ofText (Path.base (Path.normalize path)) else label
  language

/-- All that adding a node can do: a node that is there stays as it is, and a new one goes to the
    end. -/
theorem addNode_cases [Label α] (g : Graph α ω) (path : String) (label language : α) :
    (Path.normalize path ∈ g.nodeIndex ∧ g.addNode path label language = g)
    ∨ (Path.normalize path ∉ g.nodeIndex
      ∧ g.addNode path label language
        = { g with
            nodes := g.nodes.push (newNode path label language)
            nodeIndex := g.nodeIndex.insert (Path.normalize path) g.nodes.size }) := by
  by_cases hm : Path.normalize path ∈ g.nodeIndex
  · exact Or.inl ⟨hm, if_pos (Std.HashMap.mem_iff_contains.mp hm)⟩
  · exact Or.inr ⟨hm, if_neg (fun hc => hm (Std.HashMap.mem_iff_contains.mpr hc))⟩

/-- After a node was added, its identifier is known beside those that were. -/
theorem mem_nodeIndex_addNode [Label α] (g : Graph α ω) (path : String) (label language : α)
    {id : String} :
    id ∈ (g.addNode path label language).nodeIndex
      ↔ Path.normalize path = id ∨ id ∈ g.nodeIndex := by
  rcases addNode_cases g path label language with ⟨hm, heq⟩ | ⟨-, heq⟩
  · rw [heq]
    refine ⟨Or.inr, ?_⟩
    rintro (rfl | hid)
    · exact hm
    · exact hid
  · rw [heq, Std.HashMap.mem_insert, beq_iff_eq]

/-- All that adding an edge can do: it is refused, or goes to the end if it is new, or raises the
    one that is there. -/
theorem addEdge_cases [Label α] [Weight ω] (g : Graph α ω) (source target : String)
    (kind : α) (weight : ω) :
    (g.accepts source target = false ∧ g.addEdge source target kind weight = g)
    ∨ (g.accepts source target = true
      ∧ (Path.normalize source, Path.normalize target) ∉ g.edgeIndex
      ∧ g.addEdge source target kind weight
        = { g with
            edges := g.edges.push ⟨Path.normalize source, Path.normalize target, kind, weight⟩
            edgeIndex := g.edgeIndex.insert
              (Path.normalize source, Path.normalize target) g.edges.size })
    ∨ (g.accepts source target = true
      ∧ ∃ i, g.edgeIndex[(Path.normalize source, Path.normalize target)]? = some i
        ∧ g.addEdge source target kind weight
          = { g with edges := g.edges.modify i (Edge.raised weight) }) := by
  cases ha : g.accepts source target with
  | false => exact Or.inl ⟨rfl, if_neg (ne_true_of_eq_false ha)⟩
  | true =>
      refine Or.inr ?_
      cases hi : g.edgeIndex[(Path.normalize source, Path.normalize target)]? with
      | none =>
          refine Or.inl ⟨rfl, ?_, ?_⟩
          · intro hm
            rw [Std.HashMap.mem_iff_isSome_getElem?, hi] at hm
            exact nomatch hm
          · refine (if_pos ha).trans ?_
            simp only [hi]
      | some i =>
          refine Or.inr ⟨rfl, i, rfl, ?_⟩
          refine (if_pos ha).trans ?_
          simp only [hi]
          rfl

/-- Adding an edge leaves the nodes alone. -/
theorem nodes_addEdge [Label α] [Weight ω] (g : Graph α ω) (source target : String)
    (kind : α) (weight : ω) :
    (g.addEdge source target kind weight).nodes = g.nodes
      ∧ (g.addEdge source target kind weight).nodeIndex = g.nodeIndex := by
  rcases addEdge_cases g source target kind weight with ⟨-, h⟩ | ⟨-, -, h⟩ | ⟨-, i, -, h⟩ <;>
    rw [h] <;> exact ⟨rfl, rfl⟩

/-! ## Every call keeps the invariant -/

namespace WellFormed

variable {g : Graph α ω}

theorem empty : (empty : Graph α ω).WellFormed where
  normal := fun _ h => nomatch h
  joined := fun _ h => nomatch h
  nodeIndex := IsIndex.empty _
  edgeIndex := IsIndex.empty _

theorem addNode [Label α] (h : g.WellFormed) (path : String) (label language : α) :
    (g.addNode path label language).WellFormed := by
  rcases addNode_cases g path label language with ⟨-, heq⟩ | ⟨hm, heq⟩
  · rw [heq]
    exact h
  · rw [heq]
    refine ⟨?_, ?_, h.nodeIndex.push (newNode path label language) hm, h.edgeIndex⟩
    · intro n hn
      rcases Array.mem_push.mp hn with hold | hnew
      · exact h.normal n hold
      · rw [hnew]
        exact Path.normalize_normalize path
    · intro e he
      obtain ⟨hne, hs, ht⟩ := (joins_iff g _ _).mp (h.joined e he)
      refine (joins_iff _ _ _).mpr ⟨hne, ?_, ?_⟩
      · exact Std.HashMap.mem_insert.mpr (Or.inr hs)
      · exact Std.HashMap.mem_insert.mpr (Or.inr ht)

theorem addEdge [Label α] [Weight ω] (h : g.WellFormed) (source target : String)
    (kind : α) (weight : ω) : (g.addEdge source target kind weight).WellFormed := by
  rcases addEdge_cases g source target kind weight with
    ⟨-, heq⟩ | ⟨ha, hnew, heq⟩ | ⟨-, i, -, heq⟩
  · rw [heq]
    exact h
  · rw [heq]
    refine ⟨h.normal, ?_, h.nodeIndex, h.edgeIndex.push ⟨_, _, kind, weight⟩ hnew⟩
    intro e he
    rcases Array.mem_push.mp he with hold | hlast
    · exact h.joined e hold
    · rw [hlast]
      exact ha
  · rw [heq]
    -- A raised edge has the ends it had.
    refine ⟨h.normal, ?_, h.nodeIndex, h.edgeIndex.modify i (Edge.ends_raised weight)⟩
    intro e he
    obtain ⟨j, hj⟩ := Array.mem_iff_getElem?.mp he
    rw [Array.getElem?_modify] at hj
    by_cases hij : i = j
    · rw [if_pos hij] at hj
      obtain ⟨e', he', rfl⟩ := Option.map_eq_some_iff.mp hj
      exact h.joined e' (Array.mem_of_getElem? he')
    · rw [if_neg hij] at hj
      exact h.joined e (Array.mem_of_getElem? hj)

theorem build [Label α] [Weight ω] (nodes : List (Node α)) (edges : List (Edge α ω)) :
    (build nodes edges).WellFormed := by
  have hnodes : (nodes.foldl (fun g n => g.addNode n.id n.label n.language)
      (Graph.empty : Graph α ω)).WellFormed :=
    List.foldlRecOn nodes _ empty fun _ hg n _ => hg.addNode n.id n.label n.language
  exact List.foldlRecOn edges _ hnodes fun _ hg e _ =>
    hg.addEdge e.source e.target e.kind e.weight

/-- One call keeps the invariant. -/
theorem call [Label α] [Weight ω] (h : g.WellFormed) (c : Call α ω) :
    (g.call c).WellFormed := by
  cases c with
  | build nodes edges => exact build nodes edges
  | addNode path label language => exact h.addNode path label language
  | addEdge source target kind weight => exact h.addEdge source target kind weight

/-- So every graph that calls can make is well formed. -/
theorem after [Label α] [Weight ω] (calls : List (Call α ω)) : (after calls).WellFormed :=
  List.foldlRecOn calls _ empty fun _ hg c _ => hg.call c

end WellFormed

end Graph

end SourceAtlas
