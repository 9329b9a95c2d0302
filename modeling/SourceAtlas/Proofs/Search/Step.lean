import Mathlib.Algebra.GroupWithZero.Nat
import Mathlib.Data.List.Nodup
import Mathlib.Data.List.Perm.Basic
import SourceAtlas.Graph.CycleSearch

/-! # Steps of the cycle search

    All that one step can do (`step_cases`), what a run keeps because every
    step keeps it (`run_induction`), and how long a run is.  A step takes an
    edge or leaves a node, so the edges not taken, the nodes not entered and
    the nodes of the path together become one fewer with every step
    (`cost_step`), and with that much fuel a run only ends when nothing is left
    to do or enough has been found (`run_ends`). -/

namespace SourceAtlas.Search

open SourceAtlas.Graph (Adjacency)

variable {adj : Adjacency} {s s' : Search}

/-- The nodes that a node leads to. -/
def successors (adj : Adjacency) (u : String) : List String :=
  adj.getD u []

/-- One node leads to another. -/
def Leads (adj : Adjacency) (u v : String) : Prop :=
  v ∈ successors adj u

/-- Takes a successor of the current node off the list of those it has yet to offer. -/
def advance (s : Search) (pending : List String) (frontier : List (List String)) : Search :=
  { s with frontier := pending :: frontier }

/-! ## What a step can do -/

/-- All that a step can do: leave the current node when it has no more to offer, or take one of
    its successors, which closes a cycle, has been entered before, or is entered. -/
theorem step_cases (h : s.step adj = some s') :
    (∃ frontier, s.frontier = [] :: frontier ∧ s' = s.leave frontier)
    ∨ ∃ v pending frontier, s.frontier = (v :: pending) :: frontier
      ∧ ((∃ start, s.position[v]? = some start
            ∧ s' = (s.advance pending frontier).record (s.closedAt start))
        ∨ (s.position[v]? = none ∧ v ∈ s.visited ∧ s' = s.advance pending frontier)
        ∨ (s.position[v]? = none ∧ v ∉ s.visited
            ∧ s' = (s.advance pending frontier).enter adj v)) := by
  cases hf : s.frontier with
  | nil =>
      simp only [step, hf] at h
      exact nomatch h
  | cons offered frontier =>
      cases offered with
      | nil =>
          simp only [step, hf] at h
          exact Or.inl ⟨frontier, rfl, (Option.some.inj h).symm⟩
      | cons v pending =>
          simp only [step, hf] at h
          refine Or.inr ⟨v, pending, frontier, rfl, ?_⟩
          have hs' := (Option.some.inj h).symm
          cases hpos : s.position[v]? with
          | some start =>
              simp only [visit, hpos] at hs'
              exact Or.inl ⟨start, rfl, hs'⟩
          | none =>
              simp only [visit, hpos] at hs'
              by_cases hv : v ∈ s.visited
              · rw [if_pos (Std.HashSet.mem_iff_contains.mp hv)] at hs'
                exact Or.inr (Or.inl ⟨rfl, hv, hs'⟩)
              · rw [if_neg (fun hc => hv (Std.HashSet.mem_iff_contains.mpr hc))] at hs'
                exact Or.inr (Or.inr ⟨rfl, hv, hs'⟩)

/-- There is no step once the frontier is empty. -/
theorem step_eq_none_iff : s.step adj = none ↔ s.frontier = [] := by
  cases hf : s.frontier with
  | nil => simp [step, hf]
  | cons offered frontier => cases offered <;> simp [step, hf]

/-- Recording a cycle touches nothing but the keys and the cycles found. -/
theorem record_frame (s : Search) (c : Cycle) :
    (s.record c).path = s.path ∧ (s.record c).position = s.position
      ∧ (s.record c).frontier = s.frontier ∧ (s.record c).visited = s.visited := by
  unfold record
  split
  · exact ⟨rfl, rfl, rfl, rfl⟩
  · exact ⟨rfl, rfl, rfl, rfl⟩

/-- Recording a cycle finds at most one more. -/
theorem size_record_le (s : Search) (c : Cycle) :
    (s.record c).found.size ≤ s.found.size + 1 := by
  unfold record
  split
  · exact Nat.le_succ _
  · exact Nat.le_of_eq (Array.size_push ..)

/-- What has been entered stays so. -/
theorem visited_step (h : s.step adj = some s') {v : String} (hv : v ∈ s.visited) :
    v ∈ s'.visited := by
  rcases step_cases h with ⟨F, -, rfl⟩ | ⟨w, p, F, -, ⟨i, -, rfl⟩ | ⟨-, -, rfl⟩ | ⟨-, -, rfl⟩⟩
  · exact hv
  · rw [(record_frame _ _).2.2.2]
    exact hv
  · exact hv
  · exact Std.HashSet.mem_insert.mpr (Or.inr hv)

/-- A step finds at most one more cycle. -/
theorem size_step_le (h : s.step adj = some s') : s'.found.size ≤ s.found.size + 1 := by
  rcases step_cases h with ⟨F, -, rfl⟩ | ⟨w, p, F, -, ⟨i, -, rfl⟩ | ⟨-, -, rfl⟩ | ⟨-, -, rfl⟩⟩
  · exact Nat.le_succ _
  · exact size_record_le _ _
  · exact Nat.le_succ _
  · exact Nat.le_succ _

/-! ## Runs -/

variable {limit : Option Nat}

theorem run_succ_of_none {fuel : Nat} (h : s.step adj = none) :
    run adj limit (fuel + 1) s = s := by
  simp only [run, h]

theorem run_succ_of_some {fuel : Nat} (h : s.step adj = some s') :
    run adj limit (fuel + 1) s = if s'.isFull limit then s' else run adj limit fuel s' := by
  simp only [run, h]

/-- What every step keeps is kept by a run. -/
theorem run_induction {P : Search → Prop}
    (hstep : ∀ s s', P s → s.step adj = some s' → P s') (fuel : Nat) :
    ∀ s, P s → P (run adj limit fuel s) := by
  induction fuel with
  | zero => intro s hs; exact hs
  | succ fuel ih =>
      intro s hs
      cases h : s.step adj with
      | none =>
          rw [run_succ_of_none h]
          exact hs
      | some s' =>
          rw [run_succ_of_some h]
          split
          · exact hstep s s' hs h
          · exact ih s' (hstep s s' hs h)

/-- A run stops as soon as enough cycles have been found. -/
theorem size_run_le {n : Nat} (fuel : Nat) :
    ∀ s, s.found.size < n → (run adj (some n) fuel s).found.size ≤ n := by
  induction fuel with
  | zero => intro s hs; exact Nat.le_of_lt hs
  | succ fuel ih =>
      intro s hs
      cases h : s.step adj with
      | none =>
          rw [run_succ_of_none h]
          exact Nat.le_of_lt hs
      | some s' =>
          rw [run_succ_of_some h]
          have hsize := size_step_le h
          by_cases hfull : s'.isFull (some n) = true
          · rw [if_pos hfull]
            omega
          · rw [if_neg hfull]
            refine ih s' (Nat.lt_of_not_le fun hle => hfull ?_)
            exact decide_eq_true hle

/-! ## How long a run is -/

/-- The nodes that have not been entered. -/
def fresh (nodes : List String) (s : Search) : List String :=
  nodes.filter fun v => !s.visited.contains v

/-- The edges that have not been taken: those that the path has yet to offer, and those of the
    nodes that have not been entered. -/
def untaken (adj : Adjacency) (nodes : List String) (s : Search) : Nat :=
  (s.frontier.map List.length).sum
    + ((fresh nodes s).map fun v => (successors adj v).length).sum

/-- The number of steps before the search has nothing left to do. -/
def cost (adj : Adjacency) (nodes : List String) (s : Search) : Nat :=
  s.path.size + (fresh nodes s).length + untaken adj nodes s

variable {nodes : List String}

theorem mem_fresh {v : String} : v ∈ fresh nodes s ↔ v ∈ nodes ∧ v ∉ s.visited := by
  rw [fresh, List.mem_filter, Std.HashSet.mem_iff_contains, Bool.not_eq_true',
    Bool.not_eq_true]

/-- Entering a node takes it from those that have not been entered. -/
theorem fresh_enter (adj : Adjacency) (hnodes : nodes.Nodup) {v : String} (hv : v ∈ nodes)
    (hfresh : v ∉ s.visited) :
    (fresh nodes s).Perm (v :: fresh nodes (s.enter adj v)) := by
  have hmem : v ∈ fresh nodes s := mem_fresh.mpr ⟨hv, hfresh⟩
  have herase : (fresh nodes s).erase v = fresh nodes (s.enter adj v) := by
    rw [fresh, (hnodes.filter _).erase_eq_filter, List.filter_filter, fresh]
    refine List.filter_congr fun w _ => ?_
    show ((w != v) && !s.visited.contains w) = !(s.visited.insert v).contains w
    rw [Std.HashSet.contains_insert, Bool.not_or, bne, BEq.comm]
  rw [← herase]
  exact List.perm_cons_erase hmem

theorem untaken_advance (adj : Adjacency) (nodes : List String) {v : String}
    {pending : List String} {frontier : List (List String)}
    (h : s.frontier = (v :: pending) :: frontier) :
    untaken adj nodes (s.advance pending frontier) + 1 = untaken adj nodes s := by
  have hfresh : fresh nodes (s.advance pending frontier) = fresh nodes s := rfl
  have hfrontier : (s.advance pending frontier).frontier = pending :: frontier := rfl
  rw [untaken, untaken, hfresh, hfrontier, h]
  simp only [List.map_cons, List.sum_cons, List.length_cons]
  omega

theorem untaken_enter (hnodes : nodes.Nodup) {v : String} (hv : v ∈ nodes)
    (hfresh : v ∉ s.visited) : untaken adj nodes (s.enter adj v) = untaken adj nodes s := by
  have hsum := ((fresh_enter adj hnodes hv hfresh).map
    fun w => (successors adj w).length).sum_nat
  have hfrontier : (s.enter adj v).frontier = successors adj v :: s.frontier := rfl
  rw [untaken, untaken, hsum, hfrontier]
  simp only [List.map_cons, List.sum_cons]
  omega

theorem untaken_record (c : Cycle) :
    untaken adj nodes (s.record c) = untaken adj nodes s := by
  obtain ⟨-, -, hfrontier, hvisited⟩ := record_frame s c
  rw [untaken, untaken, fresh, fresh, hfrontier, hvisited]

theorem untaken_leave {frontier : List (List String)} (h : s.frontier = [] :: frontier) :
    untaken adj nodes (s.leave frontier) = untaken adj nodes s := by
  have hfresh : fresh nodes (s.leave frontier) = fresh nodes s := rfl
  have hfrontier : (s.leave frontier).frontier = frontier := rfl
  rw [untaken, untaken, hfresh, hfrontier, h]
  simp only [List.map_cons, List.sum_cons, List.length_nil, Nat.zero_add]

theorem cost_advance (adj : Adjacency) (nodes : List String) {v : String}
    {pending : List String} {frontier : List (List String)}
    (h : s.frontier = (v :: pending) :: frontier) :
    cost adj nodes (s.advance pending frontier) + 1 = cost adj nodes s := by
  have hfresh : fresh nodes (s.advance pending frontier) = fresh nodes s := rfl
  have hpath : (s.advance pending frontier).path = s.path := rfl
  have huntaken := untaken_advance adj nodes h
  rw [cost, cost, hfresh, hpath]
  omega

theorem cost_record (c : Cycle) : cost adj nodes (s.record c) = cost adj nodes s := by
  obtain ⟨hpath, -, -, hvisited⟩ := record_frame s c
  rw [cost, cost, untaken_record, fresh, fresh, hpath, hvisited]

theorem cost_leave {frontier : List (List String)} (h : s.frontier = [] :: frontier)
    {u : String} (hu : s.path.back? = some u) :
    cost adj nodes (s.leave frontier) + 1 = cost adj nodes s := by
  have hfresh : fresh nodes (s.leave frontier) = fresh nodes s := rfl
  have hpath : (s.leave frontier).path.size = s.path.size - 1 := Array.size_pop ..
  have hsize : s.path.size ≠ 0 := by
    intro hzero
    rw [Array.size_eq_zero_iff.mp hzero] at hu
    exact nomatch hu
  rw [cost, cost, untaken_leave h, hfresh, hpath]
  omega

/-- Entering a node costs a step and saves one. -/
theorem cost_enter (hnodes : nodes.Nodup) {v : String} (hv : v ∈ nodes)
    (hfresh : v ∉ s.visited) : cost adj nodes (s.enter adj v) = cost adj nodes s := by
  have hlen := (fresh_enter adj hnodes hv hfresh).length_eq
  have hpath : (s.enter adj v).path.size = s.path.size + 1 := Array.size_push ..
  rw [cost, cost, untaken_enter hnodes hv hfresh, hpath, hlen, List.length_cons]
  omega

/-- Where every step makes the rest of the search shorter, a run with enough fuel ends because
    nothing is left to do or enough has been found. -/
theorem run_ends {P : Search → Prop}
    (hstep : ∀ s s', P s → s.step adj = some s' →
      P s' ∧ cost adj nodes s' + 1 = cost adj nodes s) (fuel : Nat) :
    ∀ s, P s → cost adj nodes s < fuel →
      (run adj limit fuel s).frontier = [] ∨ (run adj limit fuel s).isFull limit = true := by
  -- By induction on the fuel: every step takes one from the cost and one from the fuel.
  induction fuel with
  | zero => intro s _ hfuel; exact absurd hfuel (Nat.not_lt_zero _)
  | succ fuel ih =>
      intro s hs hfuel
      cases h : s.step adj with
      | none =>
          rw [run_succ_of_none h]
          exact Or.inl (step_eq_none_iff.mp h)
      | some s' =>
          obtain ⟨hs', hcost⟩ := hstep s s' hs h
          rw [run_succ_of_some h]
          by_cases hfull : s'.isFull limit = true
          · rw [if_pos hfull]
            exact Or.inr hfull
          · rw [if_neg hfull]
            exact ih s' hs' (by omega)

end SourceAtlas.Search
