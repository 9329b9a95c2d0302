import Mathlib.Data.List.Chain
import SourceAtlas.Proofs.Search.Invariant

/-! # The rings that a search closes

    A step back to a node of the path closes a ring: the path from that node on
    (`Inv.ring`).  Its canonical form is recorded unless a cycle with the same
    text has been (`Records.record`).

    `Sound` puts the invariant of the walk, that of the cycles found and a
    budget together: no more cycles are found than edges are taken.  Every step
    keeps it and makes the rest of the search shorter (`Sound.step`). -/

namespace SourceAtlas.Search

open SourceAtlas.Graph (Adjacency)

variable {adj : Adjacency} {nodes finished : List String} {s s' : Search}

/-- A successor that is on the path closes a ring with the rest of the path. -/
theorem Inv.ring (hadj : Fits adj nodes) {u v : String} {start : Nat}
    (h : Inv adj nodes finished (some v) s) (hv : s.position[v]? = some start)
    (hu : s.path.back? = some u) :
    (Cycle.mk (s.path.toList.drop start)).IsRing (Leads adj)
      ∧ (u, v) ∈ (Cycle.mk (s.path.toList.drop start)).steps := by
  have hat : s.path.toList[start]? = some v := by
    have hi := (h.position v start).mp hv
    rw [Option.map_id] at hi
    rw [Array.getElem?_toList]
    exact hi
  have hlast : s.path.toList.getLast? = some u := by
    rw [Array.getLast?_toList, hu]
  have hlead := h.leads hu
  have hpath : s.path.toList.IsChain (Leads adj) := by
    have hrev : s.path.toList.reverse.IsChain fun v u => Leads adj u v :=
      h.frames.isChain.tail
    exact List.isChain_reverse.mp hrev
  have hfrom : (s.path.toList.drop start).head? = some v := by
    rw [List.head?_drop, hat]
  have hto : (s.path.toList.drop start).getLast? = some u := by
    rw [List.getLast?_drop, if_neg, hlast]
    exact Nat.not_le_of_lt (List.getElem?_eq_some_iff.mp hat).1
  obtain ⟨hback, hsteps⟩ := Cycle.steps_of_isChain (hpath.drop start) hfrom hto hlead
  refine ⟨⟨⟨?_, hsteps⟩, ?_⟩, hback⟩
  · show 2 ≤ (s.path.toList.drop start).length
    cases hnodes : s.path.toList.drop start with
    | nil =>
        rw [hnodes] at hfrom
        exact nomatch hfrom
    | cons w rest =>
        cases rest with
        | nil =>
            -- A ring of one node would be a step from a node to itself.
            rw [hnodes] at hfrom hto
            have huv : u = v := Option.some.inj (hto.symm.trans hfrom)
            exact absurd huv (hadj.ne u v hlead)
        | cons x rest => exact Nat.le_add_left 2 rest.length
  · have hnodup := h.position.nodup
    rw [List.map_id] at hnodup
    exact hnodup.sublist (List.drop_sublist start _)

/-! ## Recording rings -/

theorem Records.empty (adj : Adjacency) : Records adj {} where
  mem_keys_iff := by
    intro k
    simp
  texts_nodup := List.nodup_nil
  rings := fun _ hc => nomatch hc

/-- Only the cycles and their texts matter. -/
theorem Records.congr (h : Records adj s) (hkeys : s'.keys = s.keys) (hfound : s'.found = s.found) :
    Records adj s' where
  mem_keys_iff := by
    rw [hkeys, hfound]
    exact h.mem_keys_iff
  texts_nodup := by
    rw [hfound]
    exact h.texts_nodup
  rings := by
    rw [hfound]
    exact h.rings

/-- After a ring has been recorded its text is a key, and no key is lost. -/
theorem Records.record (h : Records adj s) {c : Cycle} (hc : c.IsRing (Leads adj)) :
    Records adj (s.record c.canonical)
      ∧ c.canonical.text ∈ (s.record c.canonical).keys
      ∧ ∀ k ∈ s.keys, k ∈ (s.record c.canonical).keys := by
  by_cases hknown : c.canonical.text ∈ s.keys
  · have heq : s.record c.canonical = s := if_pos (Std.HashSet.mem_iff_contains.mp hknown)
    rw [heq]
    exact ⟨h, hknown, fun _ hk => hk⟩
  · have heq : s.record c.canonical
        = { s with
            keys := s.keys.insert c.canonical.text
            found := s.found.push c.canonical } :=
      if_neg (fun hk => hknown (Std.HashSet.mem_iff_contains.mpr hk))
    rw [heq]
    refine ⟨⟨?_, ?_, ?_⟩, Std.HashSet.mem_insert_self,
      fun _ hk => Std.HashSet.mem_insert.mpr (Or.inr hk)⟩
    · intro k
      rw [Std.HashSet.mem_insert, beq_iff_eq, h.mem_keys_iff k]
      constructor
      · rintro (hk | ⟨d, hd, hk⟩)
        · exact ⟨_, Array.mem_push_self, hk⟩
        · exact ⟨d, Array.mem_push_of_mem _ hd, hk⟩
      · rintro ⟨d, hd, hk⟩
        rcases Array.mem_push.mp hd with hd | rfl
        · exact Or.inr ⟨d, hd, hk⟩
        · exact Or.inl hk
    · show ((s.found.push c.canonical).toList.map Cycle.text).Nodup
      rw [Array.toList_push, List.map_append, List.nodup_append]
      refine ⟨h.texts_nodup, List.nodup_singleton _, ?_⟩
      intro t ht k hk htk
      obtain ⟨d, hd, hdt⟩ := List.mem_map.mp ht
      refine hknown ((h.mem_keys_iff _).mpr ⟨d, Array.mem_toList_iff.mp hd, ?_⟩)
      rw [hdt, htk]
      exact List.mem_singleton.mp hk
    · intro d hd
      rcases Array.mem_push.mp hd with hd | rfl
      · exact h.rings d hd
      · exact ⟨c, hc, rfl⟩

/-! ## Every step keeps everything -/

/-- What holds of the whole state, before and after every step. -/
structure Sound (adj : Adjacency) (nodes : List String) (edges : Nat) (s : Search) : Prop where
  walk : ∃ finished, Inv adj nodes finished none s
  records : Records adj s
  /-- No more cycles have been found than edges have been taken. -/
  budget : s.found.size + untaken adj nodes s ≤ edges

namespace Sound

variable {edges : Nat} {v : String} {pending : List String} {frontier : List (List String)}

theorem empty (adj : Adjacency) (nodes : List String) :
    Sound adj nodes (nodes.map fun v => (successors adj v).length).sum {} where
  walk := ⟨[], Inv.empty adj nodes⟩
  records := Records.empty adj
  budget := by
    have hfresh : fresh nodes {} = nodes := by
      refine List.filter_eq_self.mpr fun v _ => ?_
      simp
    rw [untaken, hfresh]
    simp

theorem leave (h : Sound adj nodes edges s) (hf : s.frontier = [] :: frontier) :
    Sound adj nodes edges (s.leave frontier)
      ∧ cost adj nodes (s.leave frontier) + 1 = cost adj nodes s := by
  obtain ⟨⟨finished, hinv⟩, hrec, hbudget⟩ := h
  obtain ⟨u, hback, hleft⟩ := hinv.leave hf
  refine ⟨⟨⟨u :: finished, hleft⟩, hrec.congr rfl rfl, ?_⟩, cost_leave hf hback⟩
  rw [untaken_leave hf]
  exact hbudget

/-- The successor is on the path: a ring is recorded. -/
theorem close (hadj : Fits adj nodes) (h : Sound adj nodes edges s)
    (hf : s.frontier = (v :: pending) :: frontier) {start : Nat}
    (hv : s.position[v]? = some start) :
    Sound adj nodes edges ((s.advance pending frontier).record (s.closedAt start)) := by
  obtain ⟨⟨finished, hinv⟩, hrec, hbudget⟩ := h
  have hadv := hinv.advance hf
  have hrec' : Records adj (s.advance pending frontier) := hrec.congr rfl rfl
  have hon : v ∈ s.path :=
    hinv.mem_position_iff.mp (Std.HashMap.mem_iff_isSome_getElem?.mpr (hv ▸ rfl))
  have hvisited : v ∈ s.visited := (hinv.visited v).mpr (Or.inl hon)
  obtain ⟨u, hu⟩ := hinv.exists_current hf
  obtain ⟨hring, hstep⟩ := hadv.ring hadj hv hu
  obtain ⟨hrecorded, hkey, hkeys⟩ := hrec'.record hring
  refine ⟨⟨finished, ?_⟩, hrecorded, ?_⟩
  · -- The ring's text is a key now, so the step that was offered is done.
    refine (hadv.record _ hkeys).settle fun w hw => Or.inr ⟨?_, _, hring, ?_, hkey⟩
    · rw [(record_frame _ _).2.2.2]
      exact hvisited
    · rw [(record_frame _ _).1] at hw
      have hwu : w = u := Option.some.inj (hw.symm.trans hu)
      exact hwu ▸ hstep
  · have hsize := size_record_le (s.advance pending frontier) (s.closedAt start)
    have hfound : (s.advance pending frontier).found = s.found := rfl
    have huntaken := untaken_advance adj nodes hf
    rw [untaken_record]
    rw [hfound] at hsize
    omega

/-- The successor has been entered before and left: nothing is to be done. -/
theorem skip (h : Sound adj nodes edges s) (hf : s.frontier = (v :: pending) :: frontier)
    (hv : s.position[v]? = none) (hvisited : v ∈ s.visited) :
    Sound adj nodes edges (s.advance pending frontier) := by
  obtain ⟨⟨finished, hinv⟩, hrec, hbudget⟩ := h
  have hoff : v ∉ s.path := by
    intro hon
    have hpos := Std.HashMap.mem_iff_isSome_getElem?.mp (hinv.mem_position_iff.mpr hon)
    rw [hv] at hpos
    exact nomatch hpos
  have hleft : v ∈ finished := ((hinv.visited v).mp hvisited).resolve_left hoff
  refine ⟨⟨finished, (hinv.advance hf).settle fun _ _ => Or.inl hleft⟩,
    hrec.congr rfl rfl, ?_⟩
  have hfound : (s.advance pending frontier).found = s.found := rfl
  have huntaken := untaken_advance adj nodes hf
  rw [hfound]
  omega

/-- A node is entered, the successor of the current one or a root. -/
theorem enter (hnodes : nodes.Nodup) (hinv : Inv adj nodes finished (some v) s)
    (hrec : Records adj s) (hbudget : s.found.size + untaken adj nodes s ≤ edges)
    (hv : v ∉ s.visited) (hnode : v ∈ nodes) : Sound adj nodes edges (s.enter adj v) := by
  refine ⟨⟨finished, hinv.enter hv hnode⟩, hrec.congr rfl rfl, ?_⟩
  rw [untaken_enter hnodes hnode hv]
  exact hbudget

/-- A step keeps the state sound, and makes the rest of the search one step shorter. -/
theorem step (hadj : Fits adj nodes) (h : Sound adj nodes edges s)
    (hstep : s.step adj = some s') :
    Sound adj nodes edges s' ∧ cost adj nodes s' + 1 = cost adj nodes s := by
  rcases step_cases hstep with ⟨frontier, hf, rfl⟩ | ⟨v, pending, frontier, hf, hcases⟩
  · exact h.leave hf
  · have hcost := cost_advance adj nodes hf
    rcases hcases with ⟨start, hv, rfl⟩ | ⟨hv, hvisited, rfl⟩ | ⟨-, hvisited, rfl⟩
    · refine ⟨h.close hadj hf hv, ?_⟩
      rw [cost_record]
      exact hcost
    · exact ⟨h.skip hf hv hvisited, hcost⟩
    · obtain ⟨⟨finished, hinv⟩, hrec, hbudget⟩ := h
      have hadv := hinv.advance hf
      have hfresh : v ∉ (s.advance pending frontier).visited := hvisited
      obtain ⟨u, hu⟩ := hinv.exists_current hf
      have hnode : v ∈ nodes := hadj.mem u v (hadv.leads hu)
      refine ⟨enter hadj.nodup hadv (hrec.congr rfl rfl) ?_ hfresh hnode, ?_⟩
      · have hfound : (s.advance pending frontier).found = s.found := rfl
        have huntaken := untaken_advance adj nodes hf
        rw [hfound]
        omega
      · rw [cost_enter hadj.nodup hnode hfresh]
        exact hcost

end Sound

end SourceAtlas.Search
