import SourceAtlas.Proofs.Search.Step

/-! # Searches with a limit

    A limit is looked at after every step and before every root.  Until it is
    reached, a search with a limit and one without go through the same states,
    and afterwards the one without can only find more, behind what has been found
    (`found_prefix_step`).  `Follows` says this of two searches, and it is kept
    by a run (`Follows.run`), by the search from a root (`Follows.fromRoot`) and
    so by the whole search.

    The cycles that are found with a limit are therefore the first ones of those
    that are found without (`cycles_some_eq_take`). -/

namespace SourceAtlas.Search

open SourceAtlas.Graph (Adjacency)

variable {adj : Adjacency} {limit : Option Nat} {s s' t : Search} {n : Nat}

/-! ## What has been found is kept -/

theorem found_prefix_record (s : Search) (c : Cycle) :
    s.found.toList <+: (s.record c).found.toList := by
  unfold record
  split
  · exact List.prefix_rfl
  · show s.found.toList <+: (s.found.push c).toList
    rw [Array.toList_push]
    exact List.prefix_append ..

/-- A step finds nothing, or one more cycle behind the others. -/
theorem found_prefix_step (h : s.step adj = some s') : s.found.toList <+: s'.found.toList := by
  rcases step_cases h with ⟨F, -, rfl⟩ | ⟨w, p, F, -, ⟨i, -, rfl⟩ | ⟨-, -, rfl⟩ | ⟨-, -, rfl⟩⟩
  · exact List.prefix_rfl
  · exact found_prefix_record (s.advance p F) _
  · exact List.prefix_rfl
  · exact List.prefix_rfl

theorem found_prefix_run (fuel : Nat) (s : Search) :
    s.found.toList <+: (run adj limit fuel s).found.toList :=
  run_induction (P := fun s' => s.found.toList <+: s'.found.toList)
    (fun _ _ hs hstep => hs.trans (found_prefix_step hstep)) fuel s List.prefix_rfl

theorem found_prefix_fromRoot (fuel : Nat) (root : String) (s : Search) :
    s.found.toList <+: (fromRoot adj limit fuel s root).found.toList := by
  unfold fromRoot
  split
  · exact List.prefix_rfl
  · exact found_prefix_run fuel (s.enter adj root)

/-! ## Two searches side by side -/

theorem isFull_some_iff : s.isFull (some n) = true ↔ n ≤ s.found.size :=
  decide_eq_true_iff

/-- A search with a limit beside one without. -/
inductive Follows (n : Nat) : (limited free : Search) → Prop where
  /-- The limit has not been reached, and both are in the same state. -/
  | along {s : Search} (hroom : s.found.size < n) : Follows n s s
  /-- The limited search has ended, and the other one has kept what was found by then. -/
  | ended {s t : Search} (hfull : s.found.size = n) (hkept : s.found.toList <+: t.found.toList) :
      Follows n s t

namespace Follows

/-- Both runs from a state below the limit. -/
theorem run (fuel : Nat) :
    ∀ s : Search, s.found.size < n →
      Follows n (run adj (some n) fuel s) (run adj none fuel s) := by
  -- The step that reaches the limit finds one cycle, so the limit is not overshot.
  induction fuel with
  | zero => intro s hroom; exact .along hroom
  | succ fuel ih =>
      intro s hroom
      cases h : s.step adj with
      | none =>
          rw [run_succ_of_none h, run_succ_of_none h]
          exact .along hroom
      | some s' =>
          have hsize := size_step_le h
          have hfree : Search.run adj none (fuel + 1) s = Search.run adj none fuel s' :=
            run_succ_of_some h
          rw [hfree, run_succ_of_some h]
          by_cases hfull : s'.isFull (some n) = true
          · rw [if_pos hfull]
            have hreached := isFull_some_iff.mp hfull
            exact .ended (by omega) (found_prefix_run fuel s')
          · rw [if_neg hfull]
            exact ih s' (Nat.lt_of_not_le fun hle => hfull (isFull_some_iff.mpr hle))

/-- Both searches from a root. -/
theorem fromRoot (h : Follows n s t) (fuel : Nat) (root : String) :
    Follows n (fromRoot adj (some n) fuel s root) (fromRoot adj none fuel t root) := by
  cases h with
  | along hroom =>
      have hfull : s.isFull (some n) = false :=
        Bool.eq_false_iff.mpr fun hfull => Nat.not_le_of_lt hroom (isFull_some_iff.mp hfull)
      have hnone : s.isFull none = false := rfl
      rw [Search.fromRoot, Search.fromRoot, hfull, hnone, Bool.false_or]
      by_cases hroot : s.visited.contains root = true
      · rw [if_pos hroot, if_pos hroot]
        exact .along hroom
      · rw [if_neg hroot, if_neg hroot]
        exact run fuel (s.enter adj root) hroom
  | ended hfull hkept =>
      have hskip : (s.isFull (some n) || s.visited.contains root) = true := by
        rw [isFull_some_iff.mpr (Nat.le_of_eq hfull.symm), Bool.true_or]
      have hstays : Search.fromRoot adj (some n) fuel s root = s := if_pos hskip
      rw [hstays]
      exact .ended hfull (hkept.trans (found_prefix_fromRoot fuel root t))

/-- Both searches from the same roots. -/
theorem foldl (h : Follows n s t) (fuel : Nat) (roots : List String) :
    Follows n (roots.foldl (Search.fromRoot adj (some n) fuel) s)
      (roots.foldl (Search.fromRoot adj none fuel) t) := by
  induction roots generalizing s t with
  | nil => exact h
  | cons root rest ih => exact ih (h.fromRoot fuel root)

/-- Before the first root the limit is reached already if nothing is looked for. -/
theorem start (n : Nat) : Follows n {} {} := by
  cases n with
  | zero => exact .ended rfl List.prefix_rfl
  | succ n => exact .along n.succ_pos

/-- The limited search has found what the other one found first. -/
theorem found_eq (h : Follows n s t) : s.found.toList = t.found.toList.take n := by
  cases h with
  | along hroom => exact (List.take_of_length_le (Nat.le_of_lt hroom)).symm
  | ended hfull hkept =>
      have htake := List.prefix_iff_eq_take.mp hkept
      rwa [Array.length_toList, hfull] at htake

end Follows

end SourceAtlas.Search

namespace SourceAtlas.Graph

open SourceAtlas.Search

/-- **A LIMIT CUTS THE LIST SHORT**: the cycles that are found in a graph with a limit are the first
    ones of those that are found without, up to the limit. -/
theorem cycles_some_eq_take {α ω : Type} (g : Graph α ω) (n : Nat) :
    g.cycles (some n) = (g.cycles none).take n :=
  ((Follows.start n).foldl g.searchFuel g.nodeIds).found_eq

end SourceAtlas.Graph
