import SourceAtlas.Proofs.Search.Roots

/-! # The states of a search

    A search begins with nothing, takes up a root whenever its path is empty,
    and steps.  `Reached` are the states it can be in, whatever the order of the
    roots is and wherever a limit stops it, and the state after the search from
    given roots is one of them (`Reached.foldl`).

    In each of them a step that leads back to the path (`BackAt`) closes a ring
    (`Sound.exists_ring`), and the ring is dropped exactly if a cycle with its
    text has been found (`Sound.found_step`). -/

namespace SourceAtlas.Search

open SourceAtlas.Graph (Adjacency)

variable {adj : Adjacency} {nodes roots : List String} {edges : Nat} {limit : Option Nat}
  {s s' : Search}

/-- The states of a search from some roots. -/
inductive Reached (adj : Adjacency) (roots : List String) : Search → Prop
  | start : Reached adj roots {}
  /-- A root is taken up while the path is empty. -/
  | root {s : Search} {v : String} (h : Reached adj roots s) (hrest : s.frontier = [])
      (hroot : v ∈ roots) (hnew : v ∉ s.visited) : Reached adj roots (s.enter adj v)
  | step {s s' : Search} (h : Reached adj roots s) (hstep : s.step adj = some s') :
      Reached adj roots s'

/-- The current node leads back to the node of the path at a position. -/
def BackAt (s : Search) (start : Nat) : Prop :=
  ∃ v pending frontier, s.frontier = (v :: pending) :: frontier ∧ s.position[v]? = some start

/-! ## Every state is sound -/

/-- A root that has not been entered can be taken up while the path is empty. -/
theorem Sound.root (hadj : Fits adj nodes) (h : Sound adj nodes edges s) (hrest : s.frontier = [])
    {v : String} (hv : v ∈ nodes) (hnew : v ∉ s.visited) :
    Sound adj nodes edges (s.enter adj v) := by
  obtain ⟨finished, hinv⟩ := h.walk
  exact Sound.enter hadj.nodup (hinv.idle hrest v).2 h.records h.budget hnew hv

theorem Reached.sound (hadj : Fits adj nodes) (h : Reached adj nodes s) :
    Sound adj nodes ((nodes.map fun v => (successors adj v).length).sum) s := by
  induction h with
  | start => exact Sound.empty adj nodes
  | root _ hrest hroot hnew ih => exact ih.root hadj hrest hroot hnew
  | step _ hstep ih => exact (ih.step hadj hstep).1

theorem Reached.run (h : Reached adj roots s) (fuel : Nat) :
    Reached adj roots (run adj limit fuel s) :=
  run_induction (fun _ _ hs hstep => hs.step hstep) fuel _ h

/-- The search from a root that it comes upon at rest. -/
theorem Reached.fromRoot (h : Reached adj roots s)
    (hrest : s.frontier = [] ∨ s.isFull limit = true) (fuel : Nat) {v : String} (hv : v ∈ roots) :
    Reached adj roots (fromRoot adj limit fuel s v) := by
  unfold Search.fromRoot
  split
  · exact h
  · next hgo =>
      rw [Bool.or_eq_true, not_or] at hgo
      refine (h.root (hrest.resolve_right hgo.1) hv fun hin => hgo.2 ?_).run fuel
      exact Std.HashSet.mem_iff_contains.mp hin

/-- The state after the search from given roots. -/
theorem Reached.foldl (hadj : Fits adj nodes) {fuel : Nat} (hfuel : nodes.length + edges < fuel)
    (hrested : Rested adj nodes edges limit {}) :
    Reached adj nodes (nodes.foldl (Search.fromRoot adj limit fuel) {}) := by
  -- That the search rests between two roots is carried along.
  have hboth : Rested adj nodes edges limit (nodes.foldl (Search.fromRoot adj limit fuel) {})
      ∧ Reached adj nodes (nodes.foldl (Search.fromRoot adj limit fuel) {}) :=
    List.foldlRecOn
      (motive := fun s => Rested adj nodes edges limit s ∧ Reached adj nodes s)
      nodes _ ⟨hrested, .start⟩
      fun _ ⟨hs, hreached⟩ _ hv => ⟨hs.fromRoot hadj hfuel hv, hreached.fromRoot hs.ended fuel hv⟩
  exact hboth.2

/-! ## Steps along the path -/

/-- A step enters a node that has not been entered. -/
theorem step_enter {v : String} {pending : List String} {frontier : List (List String)}
    (hf : s.frontier = (v :: pending) :: frontier) (hoff : s.position[v]? = none)
    (hnew : v ∉ s.visited) : s.step adj = some ((s.advance pending frontier).enter adj v) := by
  simp only [Search.step, hf, visit, hoff]
  rw [if_neg fun hin => hnew (Std.HashSet.mem_iff_contains.mpr hin)]
  rfl

/-- A step back to the path records the cycle that it closes. -/
theorem step_back {v : String} {pending : List String} {frontier : List (List String)}
    {start : Nat} (hf : s.frontier = (v :: pending) :: frontier)
    (hv : s.position[v]? = some start) :
    s.step adj = some ((s.advance pending frontier).record (s.closedAt start)) := by
  simp only [Search.step, hf, visit, hv]
  rfl

theorem BackAt.exists_step {start : Nat} (h : s.BackAt start) : ∃ s', s.step adj = some s' := by
  obtain ⟨v, pending, frontier, hf, hv⟩ := h
  exact ⟨_, step_back hf hv⟩

/-! ## Steps that close a ring -/

theorem found_record (s : Search) (c : Cycle) :
    (s.record c).found = if c.text ∈ s.keys then s.found else s.found.push c := by
  unfold record
  by_cases h : c.text ∈ s.keys
  · rw [if_pos h, if_pos (Std.HashSet.mem_iff_contains.mp h)]
  · rw [if_neg h, if_neg fun hin => h (Std.HashSet.mem_iff_contains.mpr hin)]

namespace Sound

/-- What the step closes is the canonical form of a ring. -/
theorem exists_ring (hadj : Fits adj nodes) (h : Sound adj nodes edges s) {start : Nat}
    (hback : s.BackAt start) :
    ∃ c : Cycle, c.IsRing (Leads adj) ∧ s.closedAt start = c.canonical := by
  obtain ⟨v, pending, frontier, hf, hv⟩ := hback
  obtain ⟨finished, hinv⟩ := h.walk
  obtain ⟨u, hu⟩ := hinv.exists_current hf
  exact ⟨_, ((hinv.advance hf).ring hadj hv hu).1, rfl⟩

/-- The ring is dropped if its text has been found, and found otherwise. -/
theorem found_step (h : Sound adj nodes edges s) {start : Nat} (hback : s.BackAt start)
    (hstep : s.step adj = some s') :
    s'.found = if (s.closedAt start).text ∈ s.found.toList.map Cycle.text then s.found
      else s.found.push (s.closedAt start) := by
  obtain ⟨v, pending, frontier, hf, hv⟩ := hback
  have hs' : s' = (s.advance pending frontier).record (s.closedAt start) :=
    Option.some.inj (hstep.symm.trans (step_back hf hv))
  have hkey : (s.closedAt start).text ∈ s.keys
      ↔ (s.closedAt start).text ∈ s.found.toList.map Cycle.text := by
    rw [h.records.mem_keys_iff, List.mem_map]
    exact exists_congr fun c => and_congr_left' Array.mem_toList_iff.symm
  have hfound : s'.found = if (s.closedAt start).text ∈ s.keys then s.found
      else s.found.push (s.closedAt start) := by
    rw [hs']
    exact found_record ..
  rw [hfound]
  exact if_congr hkey rfl rfl

end Sound

end SourceAtlas.Search
