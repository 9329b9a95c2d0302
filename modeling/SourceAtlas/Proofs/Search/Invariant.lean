import SourceAtlas.Proofs.Graph.Cycle
import SourceAtlas.Proofs.Index
import SourceAtlas.Proofs.Search.Step

/-! # The invariant of the cycle search

    A node is finished when the search has left it.  The invariant says of
    every step of the graph that has been taken, from `u` to `v`, that it is
    done: `v` was finished before `u` is, or the step is known to close a ring
    (`Closes`).  For the nodes of the path this is `Frames`, which goes along
    the path and the frontier together; for the finished ones it is `Settled`,
    where the list of them is in the order in which they were finished, the
    last one first.

    A closed walk cannot only lead to nodes that were finished earlier, so one
    of its steps closes a ring (`Settled.exists_closes`). -/

namespace SourceAtlas.Search

open SourceAtlas.Graph (Adjacency)

variable {adj : Adjacency} {nodes finished : List String} {s s' : Search}

/-- The adjacency leads to the given nodes only, and from no node to itself. -/
structure Fits (adj : Adjacency) (nodes : List String) : Prop where
  nodup : nodes.Nodup
  mem : ∀ u v, Leads adj u v → v ∈ nodes
  ne : ∀ u v, Leads adj u v → u ≠ v

/-- The step from one node to another is known to close a ring: the second node has been entered,
    and the text of a ring with this step is among the keys. -/
def Closes (adj : Adjacency) (s : Search) (u v : String) : Prop :=
  v ∈ s.visited ∧ ∃ c : Cycle, c.IsRing (Leads adj) ∧ (u, v) ∈ c.steps
    ∧ c.canonical.text ∈ s.keys

theorem Closes.mono (hvisited : ∀ v ∈ s.visited, v ∈ s'.visited)
    (hkeys : ∀ k ∈ s.keys, k ∈ s'.keys) {u v : String} (h : Closes adj s u v) :
    Closes adj s' u v := by
  obtain ⟨hv, c, hring, hstep, hkey⟩ := h
  exact ⟨hvisited v hv, c, hring, hstep, hkeys _ hkey⟩

/-! ## Finished nodes -/

/-- Finished nodes, the last one first: each leads to nodes that were finished before it, except
    by steps that close rings. -/
def Settled (adj : Adjacency) (closes : String → String → Prop) : List String → Prop
  | [] => True
  | u :: rest =>
      u ∉ rest ∧ (∀ v, Leads adj u v → v ∈ rest ∨ closes u v) ∧ Settled adj closes rest

namespace Settled

variable {closes closes' : String → String → Prop}

theorem mono (hmono : ∀ u v, closes u v → closes' u v) :
    ∀ {l : List String}, Settled adj closes l → Settled adj closes' l := by
  intro l
  induction l with
  | nil => intro _; exact trivial
  | cons u rest ih =>
      rintro ⟨hu, hstep, hrest⟩
      exact ⟨hu, fun v hv => (hstep v hv).imp id (hmono u v), ih hrest⟩

/-- From a finished node one only gets to finished nodes, except by closing steps. -/
theorem mem_or_closes {l : List String} (h : Settled adj closes l) {u v : String} (hu : u ∈ l)
    (hv : Leads adj u v) : v ∈ l ∨ closes u v := by
  induction l with
  | nil => exact nomatch hu
  | cons w rest ih =>
      obtain ⟨-, hstep, hrest⟩ := h
      rcases List.mem_cons.mp hu with rfl | hu
      · exact (hstep v hv).imp (List.mem_cons_of_mem _) id
      · exact (ih hrest hu).imp (List.mem_cons_of_mem _) id

/-- A closed walk through finished nodes has a closing step. -/
theorem exists_closes {l : List String} (h : Settled adj closes l) {c : Cycle}
    (hc : c.Along (Leads adj)) (hmem : ∀ v ∈ c.nodes, v ∈ l) :
    ∃ p ∈ c.steps, closes p.1 p.2 := by
  -- By induction on the finished nodes: the walk keeps to the earlier ones, or it comes to the
  -- last one, and the step that leads there is not to an earlier one.
  induction l with
  | nil =>
      have hlen := hc.two_le
      have hnil : c.nodes = [] := List.eq_nil_iff_forall_not_mem.mpr
        fun v hv => nomatch hmem v hv
      rw [Cycle.length, hnil] at hlen
      exact absurd hlen (by decide)
  | cons w rest ih =>
      obtain ⟨hw, hstep, hrest⟩ := h
      by_cases hin : w ∈ c.nodes
      · obtain ⟨u, hu⟩ := Cycle.exists_step_to hin
        have hlead : Leads adj u w := hc.steps _ hu
        rcases List.mem_cons.mp (hmem u (Cycle.mem_of_mem_steps hu).1) with rfl | hur
        · exact ⟨_, hu, (hstep _ hlead).resolve_left hw⟩
        · exact ⟨_, hu, (hrest.mem_or_closes hur hlead).resolve_left hw⟩
      · refine ih hrest fun v hv => ?_
        rcases List.mem_cons.mp (hmem v hv) with rfl | hvr
        · exact absurd hv hin
        · exact hvr

end Settled

/-! ## The path and its frontier -/

/-- The path, the current node first, and the successors that its nodes have yet to offer: those
    that they have offered are done, up to the next node of the path, which is `child`. -/
def Frames (adj : Adjacency) (done : String → String → Prop) :
    (child : Option String) → List String → List (List String) → Prop
  | _, [], [] => True
  | child, u :: stack, pending :: frontier =>
      (∃ taken, successors adj u = taken ++ pending
        ∧ (∀ v ∈ taken, done u v ∨ child = some v) ∧ ∀ v, child = some v → v ∈ taken)
      ∧ Frames adj done (some u) stack frontier
  | _, _, _ => False

namespace Frames

variable {done done' : String → String → Prop} {child : Option String} {u v : String}
  {stack pending : List String} {frontier : List (List String)}

theorem mono (hmono : ∀ u v, done u v → done' u v) :
    ∀ {stack : List String} {frontier : List (List String)} {child : Option String},
      Frames adj done child stack frontier → Frames adj done' child stack frontier := by
  intro stack
  induction stack with
  | nil =>
      intro frontier child h
      cases frontier with
      | nil => exact trivial
      | cons pending frontier => exact nomatch h
  | cons u stack ih =>
      intro frontier child h
      cases frontier with
      | nil => exact nomatch h
      | cons pending frontier =>
          obtain ⟨⟨taken, hsplit, hdone, hchild⟩, hrest⟩ := h
          exact ⟨⟨taken, hsplit, fun v hv => (hdone v hv).imp (hmono u v) id, hchild⟩, ih hrest⟩

/-- Where there is something to offer, there is a node that offers it. -/
theorem exists_node (h : Frames adj done child stack (pending :: frontier)) :
    ∃ u rest, stack = u :: rest := by
  cases stack with
  | nil => exact nomatch h
  | cons u rest => exact ⟨u, rest, rfl⟩

/-- Each node of the path leads to the next one. -/
theorem isChain (h : Frames adj done child stack frontier) :
    (child.toList ++ stack).IsChain fun v u => Leads adj u v := by
  induction stack generalizing child frontier with
  | nil =>
      cases child with
      | none => exact .nil
      | some v => exact .singleton v
  | cons u stack ih =>
      cases frontier with
      | nil => exact nomatch h
      | cons pending frontier =>
          obtain ⟨⟨taken, hsplit, -, hchild⟩, hrest⟩ := h
          have htail : (u :: stack).IsChain fun v u => Leads adj u v := ih hrest
          cases child with
          | none => exact htail
          | some v =>
              have hv : v ∈ successors adj u := by
                rw [hsplit]
                exact List.mem_append_left _ (hchild v rfl)
              exact List.isChain_cons_cons.mpr ⟨hv, htail⟩

/-- The current node offers a successor. -/
theorem take (h : Frames adj done none (u :: stack) ((v :: pending) :: frontier)) :
    Frames adj done (some v) (u :: stack) (pending :: frontier) := by
  obtain ⟨⟨taken, hsplit, hdone, -⟩, hrest⟩ := h
  refine ⟨⟨taken ++ [v], ?_, ?_, ?_⟩, hrest⟩
  · rw [hsplit, List.append_assoc]
    rfl
  · intro w hw
    rcases List.mem_append.mp hw with hw | hw
    · exact Or.inl ((hdone w hw).resolve_right (fun hn => nomatch hn))
    · exact Or.inr (congrArg some (List.mem_singleton.mp hw).symm)
  · intro w hw
    rw [← Option.some.inj hw]
    exact List.mem_append_right _ (List.mem_singleton.mpr rfl)

/-- The successor that was offered is done. -/
theorem settle (h : Frames adj done (some v) stack frontier)
    (hv : ∀ u, stack.head? = some u → done u v) : Frames adj done none stack frontier := by
  cases stack with
  | nil => cases frontier <;> exact h
  | cons u stack =>
      cases frontier with
      | nil => exact nomatch h
      | cons pending frontier =>
          obtain ⟨⟨taken, hsplit, hdone, -⟩, hrest⟩ := h
          refine ⟨⟨taken, hsplit, ?_, fun w hw => nomatch hw⟩, hrest⟩
          intro w hw
          rcases hdone w hw with hw | hw
          · exact Or.inl hw
          · rw [← Option.some.inj hw]
            exact Or.inl (hv u rfl)

/-- A node with nothing more to offer is done with all of its successors. -/
theorem pop (h : Frames adj done none (u :: stack) ([] :: frontier)) :
    (∀ v, Leads adj u v → done u v) ∧ Frames adj done (some u) stack frontier := by
  obtain ⟨⟨taken, hsplit, hdone, -⟩, hrest⟩ := h
  refine ⟨fun v hv => ?_, hrest⟩
  rw [Leads, hsplit, List.append_nil] at hv
  exact (hdone v hv).resolve_right (fun hn => nomatch hn)

/-- A node that is entered has all of its successors to offer. -/
theorem push (h : Frames adj done (some v) stack frontier) :
    Frames adj done none (v :: stack) (successors adj v :: frontier) := by
  refine ⟨⟨[], rfl, ?_, ?_⟩, h⟩
  · intro w hw
    exact nomatch hw
  · intro w hw
    exact nomatch hw

end Frames

/-! ## The state -/

/-- What holds of the path and of what has been entered, before and after every step. `finished`
    are the nodes that the search has left, the last one first, and `child` is a successor that
    the current node has just offered. -/
structure Inv (adj : Adjacency) (nodes finished : List String) (child : Option String)
    (s : Search) : Prop where
  /-- The positions are those of the path. -/
  position : IsIndex s.position id s.path
  frames : Frames adj (fun u v => v ∈ finished ∨ Closes adj s u v) child
    s.path.toList.reverse s.frontier
  /-- What has been entered is on the path or finished. -/
  visited : ∀ v, v ∈ s.visited ↔ v ∈ s.path ∨ v ∈ finished
  /-- What is finished is not on the path. -/
  apart : ∀ v ∈ finished, v ∉ s.path
  settled : Settled adj (Closes adj s) finished
  /-- Only nodes of the graph are entered. -/
  known : ∀ v ∈ s.visited, v ∈ nodes

/-- What holds of the cycles found: they are rings in canonical form, no two have one text, and
    the keys are their texts. -/
structure Records (adj : Adjacency) (s : Search) : Prop where
  mem_keys_iff : ∀ k, k ∈ s.keys ↔ ∃ c ∈ s.found, c.text = k
  texts_nodup : (s.found.toList.map Cycle.text).Nodup
  rings : ∀ c ∈ s.found, ∃ d : Cycle, d.IsRing (Leads adj) ∧ c = d.canonical

/-- The node at the end of the path, and the path without it. -/
theorem path_split {path : Array String} {u : String} {stack : List String}
    (h : path.toList.reverse = u :: stack) :
    path.toList = path.pop.toList ++ [u] ∧ path.back? = some u
      ∧ path.pop.toList.reverse = stack := by
  have hlist : path.toList = stack.reverse ++ [u] := by
    rw [← List.reverse_reverse path.toList, h, List.reverse_cons]
  have hpop : path.pop.toList = stack.reverse := by
    rw [Array.toList_pop, hlist, List.dropLast_concat]
  refine ⟨hpop ▸ hlist, ?_, ?_⟩
  · rw [← Array.getLast?_toList, hlist, List.getLast?_concat]
  · rw [hpop, List.reverse_reverse]

namespace Inv

variable {child : Option String}

theorem empty (adj : Adjacency) (nodes : List String) : Inv adj nodes [] none {} where
  position := IsIndex.empty id
  frames := trivial
  visited := by
    intro v
    simp
  apart := fun _ hv => nomatch hv
  settled := trivial
  known := by
    intro v hv
    simp at hv

theorem mem_position_iff (h : Inv adj nodes finished child s) {v : String} :
    v ∈ s.position ↔ v ∈ s.path := by
  rw [h.position.mem_iff]
  exact ⟨fun ⟨_, hw, he⟩ => he ▸ hw, fun hv => ⟨v, hv, rfl⟩⟩

/-- A search without path can take up any node. -/
theorem idle (h : Inv adj nodes finished none s) (hf : s.frontier = []) (v : String) :
    s.path = #[] ∧ Inv adj nodes finished (some v) s := by
  have hframes := h.frames
  rw [hf] at hframes
  cases hp : s.path.toList.reverse with
  | nil =>
      refine ⟨Array.toList_eq_nil_iff.mp (List.reverse_eq_nil_iff.mp hp),
        { h with frames := ?_ }⟩
      rw [hp, hf]
      exact trivial
  | cons u stack =>
      rw [hp] at hframes
      exact nomatch hframes

/-- Where there is something to offer, the path has a node. -/
theorem exists_stack {offered : List String} {frontier : List (List String)}
    (h : Inv adj nodes finished child s) (hf : s.frontier = offered :: frontier) :
    ∃ u stack, s.path.toList.reverse = u :: stack := by
  have hframes := h.frames
  rw [hf] at hframes
  exact hframes.exists_node

/-- Where there is something to offer, there is a current node. -/
theorem exists_current {offered : List String} {frontier : List (List String)}
    (h : Inv adj nodes finished child s) (hf : s.frontier = offered :: frontier) :
    ∃ u, s.path.back? = some u := by
  obtain ⟨u, stack, hstack⟩ := h.exists_stack hf
  exact ⟨u, (path_split hstack).2.1⟩

/-- The current node leads to the successor that it has just offered. -/
theorem leads {u v : String} (h : Inv adj nodes finished (some v) s)
    (hu : s.path.back? = some u) : Leads adj u v := by
  have hchain := h.frames.isChain
  cases hrev : s.path.toList.reverse with
  | nil =>
      rw [← Array.getLast?_toList, List.reverse_eq_nil_iff.mp hrev] at hu
      exact nomatch hu
  | cons w stack =>
      have hwu : w = u := Option.some.inj ((path_split hrev).2.1.symm.trans hu)
      rw [hrev] at hchain
      exact hwu ▸ (List.isChain_cons_cons.mp hchain).1

theorem advance {v : String} {pending : List String} {frontier : List (List String)}
    (h : Inv adj nodes finished none s) (hf : s.frontier = (v :: pending) :: frontier) :
    Inv adj nodes finished (some v) (s.advance pending frontier) := by
  refine { h with frames := ?_ }
  have hframes := h.frames
  rw [hf] at hframes
  obtain ⟨u, stack, hstack⟩ := hframes.exists_node
  show Frames adj _ _ s.path.toList.reverse (pending :: frontier)
  rw [hstack] at hframes ⊢
  exact hframes.take

theorem settle {v : String} (h : Inv adj nodes finished (some v) s)
    (hv : ∀ u, s.path.back? = some u → v ∈ finished ∨ Closes adj s u v) :
    Inv adj nodes finished none s := by
  refine { h with frames := h.frames.settle fun u hu => hv u ?_ }
  rw [← hu, List.head?_reverse, Array.getLast?_toList]

/-- More keys do no harm. -/
theorem record (h : Inv adj nodes finished child s) (c : Cycle)
    (hkeys : ∀ k ∈ s.keys, k ∈ (s.record c).keys) :
    Inv adj nodes finished child (s.record c) := by
  obtain ⟨hpath, hposition, hfrontier, hvisited⟩ := record_frame s c
  have hmono : ∀ u v, Closes adj s u v → Closes adj (s.record c) u v :=
    fun u v => Closes.mono (fun w hw => hvisited ▸ hw) hkeys
  refine ⟨?_, ?_, ?_, ?_, h.settled.mono hmono, ?_⟩
  · rw [hpath, hposition]
    exact h.position
  · rw [hpath, hfrontier]
    exact h.frames.mono fun u v => Or.imp_right (hmono u v)
  · rw [hpath, hvisited]
    exact h.visited
  · rw [hpath]
    exact h.apart
  · rw [hvisited]
    exact h.known

theorem enter {v : String} (h : Inv adj nodes finished (some v) s) (hv : v ∉ s.visited)
    (hnode : v ∈ nodes) : Inv adj nodes finished none (s.enter adj v) := by
  have hpath : v ∉ s.path := fun hp => hv ((h.visited v).mpr (Or.inl hp))
  have hfin : v ∉ finished := fun hp => hv ((h.visited v).mpr (Or.inr hp))
  have hvisited : ∀ w, w ∈ (s.enter adj v).visited ↔ v = w ∨ w ∈ s.visited := by
    intro w
    exact Std.HashSet.mem_insert.trans (or_congr_left beq_iff_eq)
  have hmono : ∀ u w, Closes adj s u w → Closes adj (s.enter adj v) u w :=
    fun u w => Closes.mono (fun x hx => (hvisited x).mpr (Or.inr hx)) fun _ hk => hk
  refine ⟨?_, ?_, ?_, ?_, h.settled.mono hmono, ?_⟩
  · exact h.position.push v fun hp => hpath (h.mem_position_iff.mp hp)
  · show Frames adj _ none (s.path.push v).toList.reverse _
    rw [Array.toList_push, List.reverse_append]
    exact (h.frames.mono fun u w => Or.imp_right (hmono u w)).push
  · intro w
    rw [hvisited w, h.visited w]
    show _ ↔ w ∈ s.path.push v ∨ w ∈ finished
    rw [Array.mem_push]
    tauto
  · intro w hw hp
    rcases Array.mem_push.mp hp with hp | rfl
    · exact h.apart w hw hp
    · exact hfin hw
  · intro w hw
    rcases (hvisited w).mp hw with rfl | hw
    · exact hnode
    · exact h.known w hw

theorem leave {frontier : List (List String)} (h : Inv adj nodes finished none s)
    (hf : s.frontier = [] :: frontier) :
    ∃ u, s.path.back? = some u ∧ Inv adj nodes (u :: finished) none (s.leave frontier) := by
  have hframes := h.frames
  rw [hf] at hframes
  obtain ⟨u, stack, hstack⟩ := hframes.exists_node
  obtain ⟨hlist, hback, hpop⟩ := path_split hstack
  rw [hstack] at hframes
  obtain ⟨hdone, hrest⟩ := hframes.pop
  have hposition : (s.leave frontier).position = s.position.erase u := by
    show s.path.back?.elim _ _ = _
    rw [hback]
    rfl
  have hmem : ∀ v, v ∈ s.path ↔ v ∈ s.path.pop ∨ v = u := by
    intro v
    rw [← Array.mem_toList_iff, hlist, List.mem_append, List.mem_singleton,
      Array.mem_toList_iff]
  have hpop_u : u ∉ s.path.pop := by
    have hnodup := h.position.nodup
    rw [List.map_id, hlist] at hnodup
    intro hu
    exact List.disjoint_of_nodup_append hnodup (Array.mem_toList_iff.mpr hu)
      (List.mem_singleton.mpr rfl)
  refine ⟨u, hback, ?_, ?_, ?_, ?_, ?_, h.known⟩
  · rw [hposition]
    exact h.position.pop hback
  · show Frames adj _ none s.path.pop.toList.reverse frontier
    rw [hpop]
    -- The node that is left is finished, so the step that led to it is done.
    refine (hrest.mono fun w v => Or.imp_left (List.mem_cons_of_mem u)).settle ?_
    intro w _
    exact Or.inl (List.mem_cons_self ..)
  · intro v
    show v ∈ s.visited ↔ v ∈ s.path.pop ∨ v ∈ u :: finished
    rw [h.visited v, hmem v, List.mem_cons]
    tauto
  · intro v hv hvp
    rcases List.mem_cons.mp hv with rfl | hv
    · exact hpop_u hvp
    · exact h.apart v hv ((hmem v).mpr (Or.inl hvp))
  · exact ⟨fun hu => h.apart u hu ((hmem u).mpr (Or.inr rfl)), hdone, h.settled⟩

end Inv

end SourceAtlas.Search
