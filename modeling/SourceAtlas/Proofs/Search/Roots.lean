import SourceAtlas.Proofs.Search.Rings

/-! # The search from every root

    Between two roots the search rests: its path is empty, or enough cycles have
    been found (`Rested`).  A root that has been entered is passed over, and any
    other one starts a run that has fuel enough to come to rest again
    (`Rested.fromRoot`).  Without a limit every root is entered in the end, so
    all nodes are finished (`foldl_fromRoot_settled`). -/

namespace SourceAtlas.Search

open SourceAtlas.Graph (Adjacency)

variable {adj : Adjacency} {nodes : List String} {edges : Nat} {limit : Option Nat} {s : Search}

/-- The state between two roots. -/
structure Rested (adj : Adjacency) (nodes : List String) (edges : Nat) (limit : Option Nat)
    (s : Search) : Prop extends Sound adj nodes edges s where
  ended : s.frontier = [] ∨ s.isFull limit = true

/-- At rest with cycles still wanted, the path is empty, so a new root can be taken up. -/
theorem Rested.enter (hadj : Fits adj nodes) {root : String} (hroot : root ∈ nodes)
    (h : Rested adj nodes edges limit s) (hroom : s.isFull limit ≠ true)
    (hnew : root ∉ s.visited) :
    s.path = #[] ∧ Sound adj nodes edges (s.enter adj root)
      ∧ cost adj nodes (s.enter adj root) ≤ nodes.length + edges := by
  have hempty := h.ended.resolve_right hroom
  obtain ⟨finished, hinv⟩ := h.walk
  obtain ⟨hpath, hready⟩ := hinv.idle hempty root
  refine ⟨hpath, Sound.enter hadj.nodup hready h.records h.budget hnew hroot, ?_⟩
  have hlen : (fresh nodes s).length ≤ nodes.length := List.length_filter_le ..
  have hbudget := h.budget
  rw [cost_enter hadj.nodup hroot hnew, cost, hpath, Array.size_empty]
  omega

/-- The search for a root comes to rest again. -/
theorem Rested.fromRoot (hadj : Fits adj nodes) {fuel : Nat}
    (hfuel : nodes.length + edges < fuel) {root : String} (hroot : root ∈ nodes)
    (h : Rested adj nodes edges limit s) :
    Rested adj nodes edges limit (fromRoot adj limit fuel s root) := by
  by_cases hskip : (s.isFull limit || s.visited.contains root) = true
  · have heq : Search.fromRoot adj limit fuel s root = s := if_pos hskip
    rw [heq]
    exact h
  · have heq : Search.fromRoot adj limit fuel s root = run adj limit fuel (s.enter adj root) :=
      if_neg hskip
    rw [heq]
    rw [Bool.or_eq_true, not_or] at hskip
    obtain ⟨hroom, hnew⟩ := hskip
    obtain ⟨-, hentered, hcost⟩ := h.enter hadj hroot hroom
      fun hv => hnew (Std.HashSet.mem_iff_contains.mp hv)
    exact {
      toSound := run_induction (fun _ _ hs hstep => (hs.step hadj hstep).1) fuel _ hentered
      ended := run_ends (fun _ _ hs hstep => hs.step hadj hstep) fuel _ hentered
        (Nat.lt_of_le_of_lt hcost hfuel) }

/-- What has been entered stays so, whatever root comes next. -/
theorem visited_fromRoot (fuel : Nat) (root : String) {v : String} (hv : v ∈ s.visited) :
    v ∈ (fromRoot adj limit fuel s root).visited := by
  unfold fromRoot
  split
  · exact hv
  · exact run_induction (fun _ _ hs hstep => visited_step hstep hs) fuel _
      (Std.HashSet.mem_insert.mpr (Or.inr hv))

/-- Without a limit a root has been entered afterwards. -/
theorem root_mem_visited (fuel : Nat) (root : String) :
    root ∈ (fromRoot adj none fuel s root).visited := by
  unfold fromRoot
  split
  · next h => exact Std.HashSet.mem_iff_contains.mpr h
  · exact run_induction (fun _ _ hs hstep => visited_step hstep hs) fuel _
      Std.HashSet.mem_insert_self

/-- No more cycles are found than are looked for. -/
theorem size_fromRoot_le (fuel : Nat) (root : String) {n : Nat} (h : s.found.size ≤ n) :
    (fromRoot adj (some n) fuel s root).found.size ≤ n := by
  unfold fromRoot
  split
  · exact h
  · next hskip =>
      refine size_run_le fuel _ (Nat.lt_of_not_le fun hle => hskip ?_)
      rw [Bool.or_eq_true]
      exact Or.inl (decide_eq_true hle)

/-- The search for any roots comes to rest. -/
theorem Rested.foldl (hadj : Fits adj nodes) {fuel : Nat} (hfuel : nodes.length + edges < fuel)
    {roots : List String} (hroots : ∀ r ∈ roots, r ∈ nodes)
    (h : Rested adj nodes edges limit s) :
    Rested adj nodes edges limit (roots.foldl (Search.fromRoot adj limit fuel) s) :=
  List.foldlRecOn roots _ h fun _ hs r hr => hs.fromRoot hadj hfuel (hroots r hr)

/-- Without a limit every root has been entered in the end. -/
theorem mem_visited_foldl (fuel : Nat) {roots : List String} :
    ∀ s : Search, ∀ r ∈ roots,
      r ∈ (roots.foldl (fromRoot adj none fuel) s).visited := by
  induction roots with
  | nil => intro s r hr; exact nomatch hr
  | cons root rest ih =>
      intro s r hr
      rcases List.mem_cons.mp hr with rfl | hr
      · exact List.foldlRecOn (motive := fun t : Search => r ∈ t.visited) rest _
          (root_mem_visited fuel r) fun _ hs root _ => visited_fromRoot fuel root hs
      · exact ih _ r hr

/-- Without a limit every root is finished in the end. -/
theorem foldl_fromRoot_settled (hadj : Fits adj nodes) {fuel : Nat}
    (hfuel : nodes.length + edges < fuel) (h : Rested adj nodes edges none s) :
    ∃ finished, (∀ v ∈ nodes, v ∈ finished)
      ∧ Settled adj (Closes adj (nodes.foldl (fromRoot adj none fuel) s)) finished := by
  have hend := h.foldl hadj hfuel fun _ hr => hr
  obtain ⟨finished, hinv⟩ := hend.walk
  have hempty := hend.ended.resolve_right Bool.false_ne_true
  obtain ⟨hpath, -⟩ := hinv.idle hempty ""
  refine ⟨finished, ?_, hinv.settled⟩
  intro v hv
  rcases (hinv.visited v).mp (mem_visited_foldl fuel s v hv) with hon | hfin
  · rw [hpath] at hon
    exact nomatch hon
  · exact hfin

end SourceAtlas.Search
