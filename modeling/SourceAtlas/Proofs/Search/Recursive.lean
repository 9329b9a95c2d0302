import SourceAtlas.Proofs.Graph.Rings
import SourceAtlas.Proofs.Search.Reached

/-! # The search as a recursion

    The textbook has the search as a function that calls itself: it enters a node
    and looks at its targets in turn (`explore`).  A target closes a ring, has
    been entered before, or is entered now (`look`).  The path is the list of the
    nodes whose calls are still open, and what has been learnt is handed from call
    to call (`Explored`).  The depth says how many calls may be open at a time.

    A state of the search stands for a stack of open calls: the nodes of the path
    are theirs, and the frontier has what each of them has yet to look at.
    `resume` is what these calls still do.  A step of the search does not change
    that (`resume_step`), and when nothing is left or enough has been found there
    is nothing to do.  So a run has the answer of the calls it stands for
    (`resume_run`), and the whole search that of the recursion
    (`found_exploreAll`).  No node has two open calls, so the recursion is never
    deeper than there are nodes (`Sound.length_stack_le`). -/

namespace SourceAtlas

/-- What a recursive search has learnt. -/
structure Explored where
  /-- The nodes that have been entered, the last one first. -/
  visited : List String := []
  /-- The cycles found, in order and in canonical form. -/
  found : List Cycle := []

namespace Explored

/-- Enough cycles have been found. -/
def isFull (limit : Option Nat) (e : Explored) : Bool :=
  limit.any (· ≤ e.found.length)

/-- A node is entered. -/
def enter (e : Explored) (v : String) : Explored :=
  { e with visited := v :: e.visited }

/-- Records a cycle, unless one with its text has been found. -/
def record (e : Explored) (c : Cycle) : Explored :=
  if c.text ∈ e.found.map Cycle.text then e else { e with found := e.found ++ [c] }

end Explored

/-- The cycle that closes when the end of a path leads back to one of its nodes. -/
def closedFrom (path : List String) (v : String) : Cycle :=
  (Cycle.mk (path.drop (path.idxOf v))).canonical

namespace Graph

variable {α ω : Type}

/-- Looks at a target of the last node of the path, unless enough cycles have been found: it is on
    the path and closes a cycle, or it has been entered before, or it is entered. -/
def look (limit : Option Nat) (enter : Explored → String → Option Explored) (path : List String)
    (e : Explored) (v : String) : Option Explored :=
  if e.isFull limit then some e
  else if v ∈ path then some (e.record (closedFrom path v))
  else if v ∈ e.visited then some e
  else enter e v

/-- Enters a node and looks at the targets of its edges in turn. The path has the nodes whose calls
    are still open, from the root on. There is no answer if the calls nest deeper than they may. -/
def explore (g : Graph α ω) (limit : Option Nat) :
    (depth : Nat) → (path : List String) → Explored → (u : String) → Option Explored
  | 0, _, _, _ => none
  | depth + 1, path, e, u =>
      (g.targets u).foldlM
        (look limit (g.explore limit depth (path ++ [u])) (path ++ [u])) (e.enter u)

/-- Explores from a root, unless it has been entered before or enough cycles have been found. -/
def exploreRoot (g : Graph α ω) (limit : Option Nat) (depth : Nat) (e : Explored)
    (root : String) : Option Explored :=
  if e.isFull limit || root ∈ e.visited then some e else g.explore limit depth [] e root

/-- The recursive search from every node in turn. -/
def exploreAll (g : Graph α ω) (limit : Option Nat) (depth : Nat) : Option Explored :=
  g.nodeIds.foldlM (g.exploreRoot limit depth) {}

/-! ## Open calls -/

/-- The last open call looks at a target. `stack` are the nodes of the open calls, the last one
    first, and `depth` is how many may be open. -/
def lookFrom (g : Graph α ω) (limit : Option Nat) (depth : Nat) (stack : List String) :
    Explored → String → Option Explored :=
  look limit (g.explore limit (depth - stack.length) stack.reverse) stack.reverse

/-- What the calls that are still open have to do. `frontier` has the targets that each of them has
    yet to look at. -/
def resume (g : Graph α ω) (limit : Option Nat) (depth : Nat) :
    (stack : List String) → (frontier : List (List String)) → Explored → Option Explored
  | u :: stack, pending :: frontier, e =>
      (pending.foldlM (g.lookFrom limit depth (u :: stack)) e).bind
        (resume g limit depth stack frontier)
  | _, _, e => some e

section

variable {g : Graph α ω} {limit : Option Nat} {depth : Nat} {stack pending : List String}
  {u v : String} {frontier : List (List String)} {e : Explored}

/-- A node is entered while there is room for one call more. -/
theorem explore_eq (hdepth : stack.length < depth) :
    g.explore limit (depth - stack.length) stack.reverse e u
      = (g.targets u).foldlM (g.lookFrom limit depth (u :: stack)) (e.enter u) := by
  obtain ⟨left, hleft⟩ := Nat.exists_eq_add_of_lt hdepth
  have hroom : depth - stack.length = left + 1 := by omega
  have hnext : depth - (u :: stack).length = left := by
    rw [List.length_cons]
    omega
  rw [hroom, lookFrom, hnext, List.reverse_cons, explore]

/-- The last call has looked at all targets of its node. -/
theorem resume_nil :
    g.resume limit depth (u :: stack) ([] :: frontier) e
      = g.resume limit depth stack frontier e := rfl

/-- The last call looks at one target more. -/
theorem resume_cons :
    g.resume limit depth (u :: stack) ((v :: pending) :: frontier) e
      = (g.lookFrom limit depth (u :: stack) e v).bind
          (g.resume limit depth (u :: stack) (pending :: frontier)) := by
  rw [resume, List.foldlM_cons]
  exact Option.bind_assoc ..

/-- When enough has been found, a call passes over what it has yet to look at. -/
theorem foldlM_lookFrom_of_isFull (hfull : e.isFull limit = true) :
    pending.foldlM (g.lookFrom limit depth stack) e = some e := by
  induction pending with
  | nil => rfl
  | cons v pending ih =>
      have hlook : g.lookFrom limit depth stack e v = some e := by
        rw [lookFrom, look, if_pos hfull]
      rw [List.foldlM_cons, hlook]
      exact ih

/-- When enough has been found, all open calls end. -/
theorem resume_of_isFull (hfull : e.isFull limit = true) :
    g.resume limit depth stack frontier e = some e := by
  induction stack generalizing frontier with
  | nil => rfl
  | cons u stack ih =>
      cases frontier with
      | nil => rfl
      | cons pending frontier =>
          rw [resume, foldlM_lookFrom_of_isFull hfull]
          exact ih

/-- A node of the path is looked at. -/
theorem resume_close (hroom : e.isFull limit ≠ true) (hv : v ∈ u :: stack) :
    g.resume limit depth (u :: stack) ((v :: pending) :: frontier) e
      = g.resume limit depth (u :: stack) (pending :: frontier)
          (e.record (closedFrom (u :: stack).reverse v)) := by
  rw [resume_cons, lookFrom, look, if_neg hroom, if_pos (List.mem_reverse.mpr hv)]
  rfl

/-- A node is looked at that has been entered and left. -/
theorem resume_skip (hroom : e.isFull limit ≠ true) (hv : v ∉ u :: stack)
    (hvisited : v ∈ e.visited) :
    g.resume limit depth (u :: stack) ((v :: pending) :: frontier) e
      = g.resume limit depth (u :: stack) (pending :: frontier) e := by
  rw [resume_cons, lookFrom, look, if_neg hroom, if_neg (fun h => hv (List.mem_reverse.mp h)),
    if_pos hvisited]
  rfl

/-- A new node is looked at, and another call is open. -/
theorem resume_enter (hroom : e.isFull limit ≠ true) (hv : v ∉ u :: stack)
    (hnew : v ∉ e.visited) (hdepth : (u :: stack).length < depth) :
    g.resume limit depth (u :: stack) ((v :: pending) :: frontier) e
      = g.resume limit depth (v :: u :: stack) (g.targets v :: pending :: frontier)
          (e.enter v) := by
  rw [resume_cons, lookFrom, look, if_neg hroom, if_neg (fun h => hv (List.mem_reverse.mp h)),
    if_neg hnew, explore_eq hdepth]
  rfl

end

end Graph

/-! ## The search and the recursion side by side -/

namespace Search

/-- The nodes of the path, the current one first. -/
def stack (s : Search) : List String := s.path.toList.reverse

/-- The search and the recursion have learnt the same. -/
structure Matches (s : Search) (e : Explored) : Prop where
  visited : ∀ v, v ∈ s.visited ↔ v ∈ e.visited
  found : s.found.toList = e.found

namespace Matches

variable {s : Search} {e : Explored} {limit : Option Nat}

theorem isFull_eq (h : s.Matches e) (limit : Option Nat) : s.isFull limit = e.isFull limit := by
  rw [isFull, Explored.isFull, ← h.found, Array.length_toList]

theorem enter (h : s.Matches e) (adj : Graph.Adjacency) (v : String) :
    (s.enter adj v).Matches (e.enter v) where
  visited := by
    intro w
    show w ∈ s.visited.insert v ↔ w ∈ v :: e.visited
    rw [Std.HashSet.mem_insert, beq_iff_eq, List.mem_cons, h.visited, eq_comm]
  found := h.found

/-- The keys are the texts of the cycles found, so both drop the same cycles. -/
theorem record {adj : Graph.Adjacency} (h : s.Matches e) (hs : Records adj s) (c : Cycle) :
    (s.record c).Matches (e.record c) where
  visited := by
    intro w
    have hvisited : (e.record c).visited = e.visited := by
      rw [Explored.record]
      split <;> rfl
    rw [(record_frame s c).2.2.2, hvisited]
    exact h.visited w
  found := by
    have hkey : c.text ∈ s.keys ↔ c.text ∈ e.found.map Cycle.text := by
      rw [hs.mem_keys_iff, ← h.found, List.mem_map]
      exact exists_congr fun d => and_congr_left' Array.mem_toList_iff.symm
    rw [found_record, Explored.record]
    by_cases hc : c.text ∈ s.keys
    · rw [if_pos hc, if_pos (hkey.mp hc)]
      exact h.found
    · rw [if_neg hc, if_neg (fun hin => hc (hkey.mpr hin)), Array.toList_push, h.found]

end Matches

/-! ## Every step leaves the answer of the open calls alone -/

variable {α ω : Type} {g : Graph α ω} {limit : Option Nat} {depth edges : Nat} {s s' : Search}
  {e : Explored} {v : String} {pending : List String} {frontier : List (List String)}

/-- Where there is something to offer, there is an open call. -/
theorem Sound.exists_stack {adj : Graph.Adjacency} {nodes : List String}
    (h : Sound adj nodes edges s) (hf : s.frontier = pending :: frontier) :
    ∃ u stack, s.stack = u :: stack ∧ s.path.pop.toList.reverse = stack := by
  obtain ⟨finished, hinv⟩ := h.walk
  obtain ⟨u, stack, hstack⟩ := hinv.exists_stack hf
  exact ⟨u, stack, hstack, (path_split hstack).2.2⟩

theorem Sound.mem_stack_iff {adj : Graph.Adjacency} {nodes : List String}
    (h : Sound adj nodes edges s) : v ∈ s.stack ↔ v ∈ s.position := by
  obtain ⟨finished, hinv⟩ := h.walk
  rw [stack, List.mem_reverse, Array.mem_toList_iff, hinv.mem_position_iff]

/-- No node has two open calls. -/
theorem Sound.nodup_path {adj : Graph.Adjacency} {nodes : List String}
    (h : Sound adj nodes edges s) : s.path.toList.Nodup := by
  obtain ⟨finished, hinv⟩ := h.walk
  have hnodup := hinv.position.nodup
  rwa [List.map_id] at hnodup

/-- So no more calls are open than there are nodes. -/
theorem Sound.length_stack_le {adj : Graph.Adjacency} {nodes : List String}
    (h : Sound adj nodes edges s) : s.stack.length ≤ nodes.length := by
  obtain ⟨finished, hinv⟩ := h.walk
  refine (List.subperm_of_subset (List.nodup_reverse.mpr h.nodup_path) fun v hv => ?_).length_le
  rw [List.mem_reverse, Array.mem_toList_iff] at hv
  exact hinv.known v ((hinv.visited v).mpr (Or.inl hv))

/-- The position of a node is where it stands on the path, so both close the same cycle. -/
theorem Sound.closedAt_eq {adj : Graph.Adjacency} {nodes : List String}
    (h : Sound adj nodes edges s) {start : Nat} (hv : s.position[v]? = some start) :
    s.closedAt start = closedFrom s.stack.reverse v := by
  obtain ⟨finished, hinv⟩ := h.walk
  have hat : s.path.toList[start]? = some v := by
    have hi := (hinv.position v start).mp hv
    rw [Option.map_id] at hi
    rw [Array.getElem?_toList]
    exact hi
  obtain ⟨hlt, rfl⟩ := List.getElem?_eq_some_iff.mp hat
  rw [closedAt, closedFrom, stack, List.reverse_reverse, h.nodup_path.idxOf_getElem]

/-- A step and the open calls: what they still do stays the same. -/
theorem resume_step (hg : g.WellFormed) (hdepth : g.nodeIds.length ≤ depth)
    (h : Sound g.adjacency g.nodeIds edges s) (hm : s.Matches e) (hroom : s.isFull limit ≠ true)
    (hstep : s.step g.adjacency = some s') :
    ∃ e', s'.Matches e' ∧ g.resume limit depth s'.stack s'.frontier e'
      = g.resume limit depth s.stack s.frontier e := by
  rw [hm.isFull_eq] at hroom
  have hlength := (h.step hg.fits hstep).1.length_stack_le
  rcases step_cases hstep with ⟨frontier, hf, rfl⟩ | ⟨v, pending, frontier, hf, hcases⟩
  · obtain ⟨u, stack, hstack, hpop⟩ := h.exists_stack hf
    refine ⟨e, ⟨hm.visited, hm.found⟩, ?_⟩
    have hleft : (s.leave frontier).stack = stack := hpop
    rw [hstack, hf, hleft]
    exact Graph.resume_nil.symm
  · obtain ⟨u, stack, hstack, -⟩ := h.exists_stack hf
    have hadvance : (s.advance pending frontier).Matches e := ⟨hm.visited, hm.found⟩
    have hon : v ∈ u :: stack ↔ v ∈ s.position := hstack ▸ h.mem_stack_iff
    rcases hcases with ⟨start, hv, rfl⟩ | ⟨hv, hvisited, rfl⟩ | ⟨hv, hnew, rfl⟩
    · have hin := hon.mpr (Std.HashMap.mem_iff_isSome_getElem?.mpr (hv ▸ rfl))
      refine ⟨_, hadvance.record (h.records.congr rfl rfl) (s.closedAt start), ?_⟩
      obtain ⟨hpath, -, hfrontier, -⟩ :=
        record_frame (s.advance pending frontier) (s.closedAt start)
      have hsame : ((s.advance pending frontier).record (s.closedAt start)).stack = s.stack :=
        congrArg (·.toList.reverse) hpath
      rw [hsame, hfrontier, h.closedAt_eq hv, hstack, hf, Graph.resume_close hroom hin]
      rfl
    · have hout : v ∉ u :: stack := by
        rw [hon, Std.HashMap.mem_iff_isSome_getElem?, hv]
        exact Bool.false_ne_true
      refine ⟨e, hadvance, ?_⟩
      have hsame : (s.advance pending frontier).stack = s.stack := rfl
      rw [hsame, hstack, hf, Graph.resume_skip hroom hout ((hm.visited v).mp hvisited)]
      rfl
    · have hout : v ∉ u :: stack := by
        rw [hon, Std.HashMap.mem_iff_isSome_getElem?, hv]
        exact Bool.false_ne_true
      refine ⟨_, hadvance.enter g.adjacency v, ?_⟩
      have hentered : ((s.advance pending frontier).enter g.adjacency v).stack = v :: s.stack := by
        show (s.path.push v).toList.reverse = v :: s.path.toList.reverse
        rw [Array.toList_push, List.reverse_append]
        rfl
      have hfrontier : ((s.advance pending frontier).enter g.adjacency v).frontier
          = g.targets v :: pending :: frontier :=
        congrArg (· :: pending :: frontier) (hg.successors_adjacency v)
      rw [hentered, hstack] at hlength
      rw [hentered, hfrontier, hstack, hf, Graph.resume_enter hroom hout
        (fun hin => hnew ((hm.visited v).mpr hin)) (Nat.lt_of_lt_of_le hlength hdepth)]

/-- A run with enough fuel has the answer of the calls that are open when it starts. -/
theorem resume_run (hg : g.WellFormed) (hdepth : g.nodeIds.length ≤ depth) (fuel : Nat) :
    ∀ (s : Search) (e : Explored), Sound g.adjacency g.nodeIds edges s → s.Matches e →
      s.isFull limit ≠ true → cost g.adjacency g.nodeIds s < fuel →
      ∃ e', (run g.adjacency limit fuel s).Matches e'
        ∧ g.resume limit depth s.stack s.frontier e = some e' := by
  induction fuel with
  | zero => intro s e _ _ _ hcost; exact absurd hcost (Nat.not_lt_zero _)
  | succ fuel ih =>
      intro s e h hm hroom hcost
      cases hstep : s.step g.adjacency with
      | none =>
          rw [run_succ_of_none hstep, step_eq_none_iff.mp hstep]
          refine ⟨e, hm, ?_⟩
          cases s.stack <;> rfl
      | some s' =>
          obtain ⟨e', hm', hresume⟩ := resume_step hg hdepth h hm hroom hstep
          obtain ⟨h', hcost'⟩ := h.step hg.fits hstep
          rw [run_succ_of_some hstep, ← hresume]
          by_cases hfull : s'.isFull limit = true
          · rw [if_pos hfull]
            exact ⟨e', hm', Graph.resume_of_isFull (hm'.isFull_eq limit ▸ hfull)⟩
          · rw [if_neg hfull]
            exact ih s' e' h' hm' hfull (by omega)

/-- Both search from a root. -/
theorem Matches.fromRoot (hg : g.WellFormed) (hdepth : g.nodeIds.length ≤ depth) {root : String}
    (hroot : root ∈ g.nodeIds)
    (h : Rested g.adjacency g.nodeIds g.edges.size limit s) (hm : s.Matches e) :
    ∃ e', (fromRoot g.adjacency limit g.searchFuel s root).Matches e'
      ∧ g.exploreRoot limit depth e root = some e' := by
  have hskip : (s.isFull limit || s.visited.contains root)
      = (e.isFull limit || decide (root ∈ e.visited)) := by
    rw [hm.isFull_eq, Bool.eq_iff_iff, Bool.or_eq_true, Bool.or_eq_true, decide_eq_true_iff,
      ← hm.visited, Std.HashSet.mem_iff_contains]
  rw [Search.fromRoot, Graph.exploreRoot, ← hskip]
  by_cases hgo : (s.isFull limit || s.visited.contains root) = true
  · rw [if_pos hgo, if_pos hgo]
    exact ⟨e, hm, rfl⟩
  · rw [if_neg hgo, if_neg hgo]
    rw [Bool.or_eq_true, not_or] at hgo
    obtain ⟨hroom, hnew⟩ := hgo
    obtain ⟨hpath, hentered, hcost⟩ := h.enter hg.fits hroot hroom
      fun hin => hnew (Std.HashSet.mem_iff_contains.mp hin)
    have hfuel := Nat.lt_of_le_of_lt hcost (Graph.WellFormed.length_lt_searchFuel g)
    obtain ⟨e', hm', hresume⟩ :=
      resume_run hg hdepth g.searchFuel _ _ hentered (hm.enter g.adjacency root) hroom hfuel
    refine ⟨e', hm', ?_⟩
    -- One call is open at first, that of the root.
    have hstack : (s.enter g.adjacency root).stack = [root] := by
      show (s.path.push root).toList.reverse = [root]
      rw [hpath]
      rfl
    have hempty : s.frontier = [] := h.ended.resolve_right hroom
    have hfrontier : (s.enter g.adjacency root).frontier = [g.targets root] := by
      show Search.successors g.adjacency root :: s.frontier = _
      rw [hempty, hg.successors_adjacency]
    rw [hstack, hfrontier] at hresume
    have hopen := hentered.length_stack_le
    rw [hstack] at hopen
    have hroom : ([] : List String).length < depth := Nat.lt_of_lt_of_le hopen hdepth
    have hexplore : g.explore limit depth [] e root
        = (g.targets root).foldlM (g.lookFrom limit depth [root]) (e.enter root) :=
      Graph.explore_eq hroom
    rw [hexplore, ← hresume]
    exact (Option.bind_fun_some _).symm

end Search

namespace Graph

variable {α ω : Type}

/-- Both search from the same roots. -/
theorem matches_foldl {g : Graph α ω} (hg : g.WellFormed) {limit : Option Nat} {depth : Nat}
    (hdepth : g.nodeIds.length ≤ depth) {roots : List String}
    (hroots : ∀ r ∈ roots, r ∈ g.nodeIds) :
    ∀ (s : Search) (e : Explored),
      Search.Rested g.adjacency g.nodeIds g.edges.size limit s → s.Matches e →
      ∃ e', (roots.foldl (Search.fromRoot g.adjacency limit g.searchFuel) s).Matches e'
        ∧ roots.foldlM (g.exploreRoot limit depth) e = some e' := by
  induction roots with
  | nil => intro s e _ hm; exact ⟨e, hm, rfl⟩
  | cons root rest ih =>
      intro s e h hm
      obtain ⟨hroot, hrest⟩ := List.forall_mem_cons.mp hroots
      obtain ⟨e', hm', hexplore⟩ := hm.fromRoot hg hdepth hroot h
      have h' := h.fromRoot hg.fits (WellFormed.length_lt_searchFuel g) hroot
      rw [List.foldl_cons, List.foldlM_cons, hexplore]
      exact ih hrest _ e' h' hm'

/-- **RECURSION**: whatever calls make a graph and whatever the limit is, the recursive search needs
    no more depth than there are nodes, and it finds the cycles that the search with a stack of its
    own finds, in the same order. -/
theorem found_exploreAll [Label α] [Weight ω] (calls : List (Call α ω)) (limit : Option Nat)
    (spare : Nat) :
    ((after calls).exploreAll limit ((after calls).nodeIds.length + spare)).map (·.found)
      = some ((after calls).cycles limit) := by
  have hg : (after calls).WellFormed := WellFormed.after calls
  have hstart : ({} : Search).Matches {} := by
    refine ⟨fun v => ?_, rfl⟩
    simp
  obtain ⟨e, hm, hexplore⟩ := matches_foldl hg (Nat.le_add_right _ spare) (fun _ hr => hr) {} {}
    (hg.rested_start limit) hstart
  rw [exploreAll, hexplore, Option.map_some, ← hm.found]
  rfl

end Graph

end SourceAtlas
