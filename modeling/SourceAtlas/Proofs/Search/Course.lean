import Mathlib.Data.List.Perm.Basic
import SourceAtlas.Proofs.Graph.Rings
import SourceAtlas.Proofs.Search.Reached

/-! # The course of a search

    The course of a search are the states in which it makes a step, in order, from
    one root (`courseFromRoot`) or from several (`courseFrom`).  Their steps lead to
    what the search comes to (`outcome_courseFrom`), and each of them is one that a
    search can reach (`reached_of_mem_courseFrom`), so the invariant of the search
    holds there.

    A step takes one edge from those that are left, or none
    (`perm_untakenEdges_step`).  What a whole course takes and what is left in
    the end are therefore all edges that were left at its start, each of them as
    often as before (`perm_untakenEdges_courseFrom`). -/

namespace SourceAtlas.Search

open SourceAtlas.Graph (Adjacency)

variable {adj : Adjacency} {limit : Option Nat} {nodes : List String} {s s' t : Search}

/-! ## The states of a run -/

/-- The states of a run in which it makes a step, in order. -/
def course (adj : Adjacency) (limit : Option Nat) : (fuel : Nat) → Search → List Search
  | 0, _ => []
  | fuel + 1, s =>
    match s.step adj with
    | none => []
    | some s' => s :: if s'.isFull limit then [] else course adj limit fuel s'

/-- The states of the search from a root. -/
def courseFromRoot (adj : Adjacency) (limit : Option Nat) (fuel : Nat) (s : Search)
    (root : String) : List Search :=
  if s.isFull limit || s.visited.contains root then []
  else course adj limit fuel (s.enter adj root)

/-- The states of the search from several roots. -/
def courseFrom (adj : Adjacency) (limit : Option Nat) (fuel : Nat) :
    (roots : List String) → Search → List Search
  | [], _ => []
  | root :: rest, s =>
    courseFromRoot adj limit fuel s root
      ++ courseFrom adj limit fuel rest (fromRoot adj limit fuel s root)

/-- The edge that the next step takes, if it takes one. -/
def edge? (s : Search) : Option (String × String) :=
  match s.frontier, s.path.back? with
  | (v :: _) :: _, some u => some (u, v)
  | _, _ => none

theorem course_succ_of_none {fuel : Nat} (h : s.step adj = none) :
    course adj limit (fuel + 1) s = [] := by
  rw [course, h]

theorem course_succ_of_some {fuel : Nat} (h : s.step adj = some s') :
    course adj limit (fuel + 1) s
      = s :: if s'.isFull limit then [] else course adj limit fuel s' := by
  rw [course, h]

/-- What every step keeps holds in all states of a run, and each of them has a next one. -/
theorem course_induction {P : Search → Prop}
    (hstep : ∀ s s', P s → s.step adj = some s' → P s') (fuel : Nat) :
    ∀ s, P s → ∀ t ∈ course adj limit fuel s, P t ∧ ∃ t', t.step adj = some t' := by
  induction fuel with
  | zero => intro s _ t ht; exact nomatch ht
  | succ fuel ih =>
      intro s hs t ht
      cases h : s.step adj with
      | none =>
          rw [course_succ_of_none h] at ht
          exact nomatch ht
      | some s' =>
          rw [course_succ_of_some h] at ht
          rcases List.mem_cons.mp ht with rfl | ht
          · exact ⟨hs, s', h⟩
          · split at ht
            · exact nomatch ht
            · exact ih s' (hstep s s' hs h) t ht

/-- The state that a list of states leads to, in each of which a step is made; the given one if
    there are none. -/
def outcome (adj : Adjacency) (states : List Search) (s : Search) : Search :=
  (states.getLast?.bind (step adj)).getD s

theorem outcome_append {before after : List Search}
    (h : ∀ t ∈ after, ∃ t', t.step adj = some t') (s : Search) :
    outcome adj (before ++ after) s = outcome adj after (outcome adj before s) := by
  unfold outcome
  rw [List.getLast?_append]
  cases hlast : after.getLast? with
  | none => rfl
  | some t =>
      obtain ⟨t', ht'⟩ := h t (List.mem_of_getLast? hlast)
      rw [Option.some_or, Option.bind_some, ht', Option.getD_some, Option.getD_some]

theorem exists_step_of_mem_course {fuel : Nat} (h : t ∈ course adj limit fuel s) :
    ∃ t', t.step adj = some t' :=
  (course_induction (P := fun _ => True) (fun _ _ _ _ => trivial) fuel s trivial t h).2

/-- The states of a run lead to its end. -/
theorem outcome_course (fuel : Nat) (s : Search) :
    outcome adj (course adj limit fuel s) s = run adj limit fuel s := by
  induction fuel generalizing s with
  | zero => rfl
  | succ fuel ih =>
      cases h : s.step adj with
      | none =>
          rw [course_succ_of_none h, run_succ_of_none h]
          rfl
      | some s' =>
          have hone : outcome adj [s] s = s' := by
            rw [outcome, List.getLast?_singleton, Option.bind_some, h, Option.getD_some]
          rw [course_succ_of_some h, run_succ_of_some h]
          split
          · exact hone
          · rw [← List.singleton_append, outcome_append (fun t => exists_step_of_mem_course), hone]
            exact ih s'

/-- From a root the search makes a step at least, so it does not matter where it came from. -/
theorem outcome_courseFromRoot {fuel : Nat} (hfuel : fuel ≠ 0) (s : Search) (root : String) :
    outcome adj (courseFromRoot adj limit fuel s root) s = fromRoot adj limit fuel s root := by
  unfold courseFromRoot fromRoot
  split
  · rfl
  · rw [← outcome_course]
    obtain ⟨fuel, rfl⟩ := Nat.exists_eq_succ_of_ne_zero hfuel
    have hstep : (s.enter adj root).step adj ≠ none := fun h => nomatch step_eq_none_iff.mp h
    obtain ⟨s', hs'⟩ := Option.ne_none_iff_exists'.mp hstep
    obtain ⟨t, ht⟩ : ∃ t, (course adj limit (fuel + 1) (s.enter adj root)).getLast? = some t := by
      rw [course_succ_of_some hs']
      exact ⟨_, List.getLast?_cons⟩
    obtain ⟨t', ht'⟩ := exists_step_of_mem_course (List.mem_of_getLast? ht)
    rw [outcome, outcome, ht, Option.bind_some, ht', Option.getD_some, Option.getD_some]

theorem exists_step_of_mem_courseFrom {fuel : Nat} {roots : List String}
    (h : t ∈ courseFrom adj limit fuel roots s) : ∃ t', t.step adj = some t' := by
  induction roots generalizing s with
  | nil => exact nomatch h
  | cons root rest ih =>
      rcases List.mem_append.mp h with h | h
      · unfold courseFromRoot at h
        split at h
        · exact nomatch h
        · exact exists_step_of_mem_course h
      · exact ih h

/-- The states of the search from several roots lead to its end. -/
theorem outcome_courseFrom {fuel : Nat} (hfuel : fuel ≠ 0) (roots : List String) (s : Search) :
    outcome adj (courseFrom adj limit fuel roots s) s
      = roots.foldl (fromRoot adj limit fuel) s := by
  induction roots generalizing s with
  | nil => rfl
  | cons root rest ih =>
      rw [courseFrom, outcome_append fun t => exists_step_of_mem_courseFrom,
        outcome_courseFromRoot hfuel, ih, List.foldl_cons]

/-- Every state of a search can be reached, and is sound. -/
theorem reached_of_mem_courseFrom {edges fuel : Nat} (hadj : Fits adj nodes)
    (hfuel : nodes.length + edges < fuel) {roots : List String} (hroots : ∀ v ∈ roots, v ∈ nodes)
    (hrested : Rested adj nodes edges limit s) (hreached : Reached adj nodes s)
    (h : t ∈ courseFrom adj limit fuel roots s) : Reached adj nodes t := by
  induction roots generalizing s with
  | nil => exact nomatch h
  | cons root rest ih =>
      have hroot := hroots root (List.mem_cons_self ..)
      rcases List.mem_append.mp h with h | h
      · unfold courseFromRoot at h
        split at h
        · exact nomatch h
        · next hgo =>
            rw [Bool.or_eq_true, not_or] at hgo
            have hentered := hreached.root (hrested.ended.resolve_right hgo.1) hroot
              fun hin => hgo.2 (Std.HashSet.mem_iff_contains.mp hin)
            exact (course_induction (fun _ _ hs hstep => hs.step hstep) fuel _ hentered t h).1
      · exact ih (fun v hv => hroots v (List.mem_cons_of_mem _ hv))
          (hrested.fromRoot hadj hfuel hroot)
          (hreached.fromRoot hrested.ended fuel hroot) h

/-! ## The edges that are left -/

/-- The edges that some nodes have yet to offer. -/
def offered (stack : List String) (frontier : List (List String)) : List (String × String) :=
  (stack.zip frontier).flatMap fun p => p.2.map (p.1, ·)

/-- The edges that have not been taken: those that the path has yet to offer, and those of the nodes
    that have not been entered. -/
def untakenEdges (adj : Adjacency) (nodes : List String) (s : Search) : List (String × String) :=
  offered s.path.toList.reverse s.frontier
    ++ (fresh nodes s).flatMap fun v => (successors adj v).map (v, ·)

theorem offered_cons (u : String) (stack pending : List String) (frontier : List (List String)) :
    offered (u :: stack) (pending :: frontier)
      = pending.map (u, ·) ++ offered stack frontier := rfl

variable {u v : String} {stack pending : List String} {frontier : List (List String)}

theorem untakenEdges_leave (hf : s.frontier = [] :: frontier)
    (hpath : s.path.toList.reverse = u :: stack) :
    untakenEdges adj nodes (s.leave frontier) = untakenEdges adj nodes s := by
  have hleft : (s.leave frontier).path.toList.reverse = stack := (path_split hpath).2.2
  have hfresh : fresh nodes (s.leave frontier) = fresh nodes s := rfl
  have hfrontier : (s.leave frontier).frontier = frontier := rfl
  rw [untakenEdges, untakenEdges, hleft, hfresh, hfrontier, hpath, hf, offered_cons, List.map_nil,
    List.nil_append]

theorem untakenEdges_advance (hf : s.frontier = (v :: pending) :: frontier)
    (hpath : s.path.toList.reverse = u :: stack) :
    untakenEdges adj nodes s = (u, v) :: untakenEdges adj nodes (s.advance pending frontier) := by
  have hkept : (s.advance pending frontier).path = s.path := rfl
  have hfresh : fresh nodes (s.advance pending frontier) = fresh nodes s := rfl
  have hfrontier : (s.advance pending frontier).frontier = pending :: frontier := rfl
  rw [untakenEdges, untakenEdges, hkept, hfresh, hfrontier, hpath, hf, offered_cons, offered_cons]
  rfl

theorem untakenEdges_record (c : Cycle) :
    untakenEdges adj nodes (s.record c) = untakenEdges adj nodes s := by
  obtain ⟨hpath, -, hfrontier, hvisited⟩ := record_frame s c
  rw [untakenEdges, untakenEdges, fresh, fresh, hpath, hfrontier, hvisited]

/-- The edges of a node that is entered are left as before, only in another place. -/
theorem perm_untakenEdges_enter (hnodes : nodes.Nodup) (hv : v ∈ nodes) (hfresh : v ∉ s.visited) :
    (untakenEdges adj nodes s).Perm (untakenEdges adj nodes (s.enter adj v)) := by
  have hrest := (fresh_enter adj hnodes hv hfresh).flatMap_right
    fun w => (successors adj w).map (w, ·)
  have hoffered : offered (s.enter adj v).path.toList.reverse (s.enter adj v).frontier
      = (successors adj v).map (v, ·) ++ offered s.path.toList.reverse s.frontier := by
    show offered (s.path.push v).toList.reverse (successors adj v :: s.frontier) = _
    rw [Array.toList_push, List.reverse_append]
    rfl
  rw [untakenEdges, untakenEdges, hoffered, List.append_assoc]
  refine (hrest.append_left _).trans ?_
  rw [List.flatMap_cons, ← List.append_assoc, ← List.append_assoc]
  exact List.perm_append_comm.append_right _

theorem edge?_of_offer (hf : s.frontier = (v :: pending) :: frontier)
    (hu : s.path.back? = some u) : s.edge? = some (u, v) := by
  rw [edge?, hf, hu]

theorem edge?_of_leave (hf : s.frontier = [] :: frontier) : s.edge? = none := by
  rw [edge?, hf]

/-- A step takes its edge from those that are left, and no other. -/
theorem perm_untakenEdges_step {edges : Nat} (hadj : Fits adj nodes) (h : Sound adj nodes edges s)
    (hstep : s.step adj = some s') :
    (untakenEdges adj nodes s).Perm (s.edge?.toList ++ untakenEdges adj nodes s') := by
  obtain ⟨finished, hinv⟩ := h.walk
  rcases step_cases hstep with ⟨frontier, hf, rfl⟩ | ⟨v, pending, frontier, hf, hcases⟩
  · obtain ⟨u, stack, hpath⟩ := hinv.exists_stack hf
    rw [edge?_of_leave hf, untakenEdges_leave hf hpath]
    exact List.Perm.refl _
  · obtain ⟨u, stack, hpath⟩ := hinv.exists_stack hf
    have hu := (path_split hpath).2.1
    rw [edge?_of_offer hf hu, untakenEdges_advance hf hpath]
    refine List.Perm.cons (u, v) ?_
    rcases hcases with ⟨start, -, rfl⟩ | ⟨-, -, rfl⟩ | ⟨-, hfresh, rfl⟩
    · rw [untakenEdges_record]
      exact List.Perm.refl _
    · exact List.Perm.refl _
    · exact perm_untakenEdges_enter hadj.nodup
        (hadj.mem u v ((hinv.advance hf).leads hu)) hfresh

/-- What a run takes and what it leaves are the edges that were left before. -/
theorem perm_untakenEdges_course {edges : Nat} (hadj : Fits adj nodes) (fuel : Nat) :
    ∀ s, Sound adj nodes edges s → (untakenEdges adj nodes s).Perm
      ((course adj limit fuel s).filterMap edge?
        ++ untakenEdges adj nodes (run adj limit fuel s)) := by
  -- By induction on the fuel: each step takes its edge from those that are left.
  induction fuel with
  | zero => intro s _; exact List.Perm.refl _
  | succ fuel ih =>
      intro s hs
      cases h : s.step adj with
      | none =>
          rw [course_succ_of_none h, run_succ_of_none h]
          exact List.Perm.refl _
      | some s' =>
          have htaken : ∀ rest : List Search,
              (s :: rest).filterMap edge? = s.edge?.toList ++ rest.filterMap edge? := by
            intro rest
            cases hedge : s.edge? with
            | none => rw [List.filterMap_cons_none hedge, Option.toList_none, List.nil_append]
            | some e =>
                rw [List.filterMap_cons_some hedge, Option.toList_some, List.singleton_append]
          rw [course_succ_of_some h, run_succ_of_some h, htaken, List.append_assoc]
          refine (perm_untakenEdges_step hadj hs h).trans (List.Perm.append_left _ ?_)
          split
          · exact List.Perm.refl _
          · exact ih s' (hs.step hadj h).1

/-- The same for the search from several roots. -/
theorem perm_untakenEdges_courseFrom {edges fuel : Nat} (hadj : Fits adj nodes)
    (hfuel : nodes.length + edges < fuel) {roots : List String} (hroots : ∀ v ∈ roots, v ∈ nodes)
    (h : Rested adj nodes edges limit s) :
    (untakenEdges adj nodes s).Perm ((courseFrom adj limit fuel roots s).filterMap edge?
      ++ untakenEdges adj nodes (roots.foldl (fromRoot adj limit fuel) s)) := by
  induction roots generalizing s with
  | nil => exact List.Perm.refl _
  | cons root rest ih =>
      have hroot := hroots root (List.mem_cons_self ..)
      have hrest := ih (fun v hv => hroots v (List.mem_cons_of_mem _ hv))
        (h.fromRoot hadj hfuel hroot)
      rw [courseFrom, List.filterMap_append, List.append_assoc, List.foldl_cons]
      refine List.Perm.trans ?_ (hrest.append_left _)
      unfold courseFromRoot fromRoot
      split
      · exact List.Perm.refl _
      · next hgo =>
          rw [Bool.or_eq_true, not_or] at hgo
          have hnew : root ∉ s.visited := fun hin => hgo.2 (Std.HashSet.mem_iff_contains.mp hin)
          exact (perm_untakenEdges_enter hadj.nodup hroot hnew).trans
            (perm_untakenEdges_course hadj fuel _ (h.enter hadj hroot hgo.1 hnew).2.1)

end SourceAtlas.Search
