import Mathlib.Algebra.BigOperators.Group.List.Basic
import SourceAtlas.Proofs.Graph.Lookup
import SourceAtlas.Proofs.Search.Roots

/-! # The rings of a graph

    What `Graph.cycles` finds.  With any limit it finds rings only, each in
    canonical form and no ring twice, and no more of them than the graph has
    edges (`cycles_are_rings`).  Without a limit it finds enough: every closed
    walk shares a step with a ring that is found (`walks_meet_found_rings`). -/

namespace SourceAtlas.Graph

open SourceAtlas.Cycle SourceAtlas.Search

variable {α ω : Type}

/-- There is an edge from one node to another. -/
def Joined (g : Graph α ω) (u v : String) : Prop :=
  ∃ e ∈ g.edges, e.ends = (u, v)

/-- A ring counts as found if a reported cycle has its text in canonical form. The text need not
    tell it from other rings, as identifiers can have arrows in them. -/
def Finds (g : Graph α ω) (c : Cycle) : Prop :=
  c.IsRing g.Joined ∧ c.canonical.text ∈ (g.cycles none).map Cycle.text

/-- No two rings have one text in canonical form. -/
def TellsRings (g : Graph α ω) : Prop :=
  ∀ c d : Cycle, c.IsRing g.Joined → d.IsRing g.Joined →
    c.canonical.text = d.canonical.text → c.canonical = d.canonical

/-! ## The adjacency as a relation -/

theorem mem_targetsIn {edges : List (Edge α ω)} {u v : String} :
    v ∈ targetsIn edges u ↔ ∃ e ∈ edges, e.ends = (u, v) := by
  simp only [targetsIn, List.mem_map, List.mem_filter, decide_eq_true_eq, Edge.ends,
    Prod.mk.injEq, and_assoc]

namespace WellFormed

variable {g : Graph α ω}

/-- A node leads to the targets of its edges. -/
theorem successors_adjacency (h : g.WellFormed) (u : String) :
    successors g.adjacency u = g.targets u := by
  rw [successors, Std.HashMap.getD_eq_getD_getElem?, getElem?_adjacency]
  by_cases hu : u ∈ g.nodeIds
  · rw [if_pos hu, Option.getD_some]
  · rw [if_neg hu, Option.getD_none]
    refine (List.eq_nil_iff_forall_not_mem.mpr fun v hv => ?_).symm
    obtain ⟨e, he, hends⟩ := mem_targetsIn.mp hv
    have hsource : e.source = u := congrArg Prod.fst hends
    exact hu (hsource ▸ (h.ends_mem (Array.mem_toList_iff.mp he)).2.1)

theorem leads_iff (h : g.WellFormed) {u v : String} :
    Leads g.adjacency u v ↔ g.Joined u v := by
  rw [Leads, h.successors_adjacency, targets, mem_targetsIn, Joined]
  exact exists_congr fun e => and_congr_left' Array.mem_toList_iff

theorem leads_eq (h : g.WellFormed) : Leads g.adjacency = g.Joined :=
  funext fun _ => funext fun _ => propext h.leads_iff

theorem fits (h : g.WellFormed) : Fits g.adjacency g.nodeIds where
  nodup := h.nodeIndex.nodup
  mem := by
    intro u v huv
    obtain ⟨e, he, hends⟩ := h.leads_iff.mp huv
    have htarget : e.target = v := congrArg Prod.snd hends
    exact htarget ▸ (h.ends_mem he).2.2
  ne := by
    intro u v huv heq
    obtain ⟨e, he, hends⟩ := h.leads_iff.mp huv
    have hsource : e.source = u := congrArg Prod.fst hends
    have htarget : e.target = v := congrArg Prod.snd hends
    exact (h.ends_mem he).1 (by rw [hsource, htarget, heq])

end WellFormed

/-! ## Counting edges -/

theorem sum_map_ite_eq_count (ids : List String) (s : String) :
    (ids.map fun id => if s = id then 1 else 0).sum = ids.count s := by
  induction ids with
  | nil => rfl
  | cons id rest ih =>
      rw [List.map_cons, List.sum_cons, ih, List.count_cons, Nat.add_comm]
      by_cases hid : s = id
      · rw [if_pos hid, if_pos (beq_iff_eq.mpr hid.symm)]
      · rw [if_neg hid, if_neg (fun hb => hid (beq_iff_eq.mp hb).symm)]

/-- Each edge is counted once, at its source. -/
theorem sum_length_targetsIn {ids : List String} (hids : ids.Nodup)
    (edges : List (Edge α ω)) (h : ∀ e ∈ edges, e.source ∈ ids) :
    (ids.map fun id => (targetsIn edges id).length).sum = edges.length := by
  induction edges with
  | nil =>
      refine List.sum_eq_zero fun n hn => ?_
      obtain ⟨id, -, rfl⟩ := List.mem_map.mp hn
      rfl
  | cons e rest ih =>
      have hcons : ∀ id, (targetsIn (e :: rest) id).length
          = (if e.source = id then 1 else 0) + (targetsIn rest id).length := by
        intro id
        by_cases hid : e.source = id
        · rw [if_pos hid, ← hid, targetsIn_cons_self, List.length_cons, Nat.add_comm]
        · rw [if_neg hid, targetsIn_cons_of_ne hid, Nat.zero_add]
      have hcount : ids.count e.source = 1 :=
        List.count_eq_one_of_mem hids (h e (List.mem_cons_self ..))
      simp only [hcons]
      rw [List.sum_map_add, sum_map_ite_eq_count, hcount,
        ih fun e' he' => h e' (List.mem_cons_of_mem _ he'), List.length_cons, Nat.add_comm]

/-! ## The search of a graph -/

namespace WellFormed

variable {g : Graph α ω}

theorem sum_length_successors (h : g.WellFormed) :
    (g.nodeIds.map fun v => (successors g.adjacency v).length).sum = g.edges.size := by
  simp only [h.successors_adjacency, targets]
  exact sum_length_targetsIn h.nodeIndex.nodup _
    fun e he => (h.ends_mem (Array.mem_toList_iff.mp he)).2.1

theorem length_lt_searchFuel (g : Graph α ω) :
    g.nodeIds.length + g.edges.size < g.searchFuel := by
  rw [nodeIds, List.length_map, Array.length_toList, searchFuel]
  exact Nat.lt_succ_self _

theorem rested_start (h : g.WellFormed) (limit : Option Nat) :
    Rested g.adjacency g.nodeIds g.edges.size limit {} where
  toSound := h.sum_length_successors ▸ Sound.empty g.adjacency g.nodeIds
  ended := Or.inl rfl

theorem rested_search (h : g.WellFormed) (limit : Option Nat) :
    Rested g.adjacency g.nodeIds g.edges.size limit (g.search limit) :=
  (h.rested_start limit).foldl h.fits (length_lt_searchFuel g) fun _ hr => hr

/-- Every closed walk has a step that the search has seen to close a ring. -/
theorem exists_found_ring (h : g.WellFormed) {k : Cycle} (hk : k.Along g.Joined) :
    ∃ c, g.Finds c ∧ ∃ p ∈ k.steps, p ∈ c.steps := by
  obtain ⟨finished, hall, hsettled⟩ :=
    foldl_fromRoot_settled h.fits (length_lt_searchFuel g) (h.rested_start none)
  have hnodes : ∀ v ∈ k.nodes, v ∈ finished := by
    intro v hv
    obtain ⟨u, hu⟩ := Cycle.exists_step_to hv
    exact hall v (h.fits.mem u v (h.leads_iff.mpr (hk.steps _ hu)))
  -- All nodes are finished, and no closed walk leads only to nodes that were finished earlier.
  have halong : k.Along (Leads g.adjacency) := h.leads_eq ▸ hk
  obtain ⟨p, hp, -, c, hring, hstep, hkey⟩ := hsettled.exists_closes halong hnodes
  obtain ⟨d, hd, htext⟩ := ((h.rested_search none).records.mem_keys_iff _).mp hkey
  refine ⟨c, ⟨h.leads_eq ▸ hring, ?_⟩, p, hp, hstep⟩
  exact List.mem_map.mpr ⟨d, Array.mem_toList_iff.mpr hd, htext⟩

end WellFormed

/-- **SOUNDNESS**: whatever calls make a graph and whatever the limit is, the cycles found are
    rings of the graph that start at their smallest nodes, no two are rotations of each other,
    and there are no more of them than the limit says and than the graph has edges. -/
theorem cycles_are_rings [Label α] [Weight ω] (calls : List (Call α ω)) (limit : Option Nat) :
    (∀ c ∈ (after calls).cycles limit, c.IsRing (after calls).Joined ∧ c.StartsLeast)
    ∧ ((after calls).cycles limit).Pairwise (fun c d => ¬ c.nodes ~r d.nodes)
    ∧ (∀ n ∈ limit, ((after calls).cycles limit).length ≤ n)
    ∧ ((after calls).cycles limit).length ≤ (after calls).edges.size := by
  have h : (after calls).WellFormed := WellFormed.after calls
  have hrested := h.rested_search limit
  have hrings : ∀ c ∈ (after calls).cycles limit,
      ∃ d : Cycle, d.IsRing (after calls).Joined ∧ c = d.canonical := by
    intro c hc
    rw [← h.leads_eq]
    exact hrested.records.rings c (Array.mem_toList_iff.mp hc)
  refine ⟨?_, ?_, ?_, ?_⟩
  · intro c hc
    obtain ⟨d, hd, rfl⟩ := hrings c hc
    refine ⟨hd.canonical, canonical_startsLeast fun hnil => ?_⟩
    have hlen := hd.two_le
    rw [Cycle.length, hnil] at hlen
    exact absurd hlen (by decide)
  · -- Rotations have one canonical form, so one text, and no text is found twice.
    have htexts := List.pairwise_map.mp hrested.records.texts_nodup
    refine htexts.imp_of_mem fun {c d} hc hd hne hrot => hne ?_
    obtain ⟨c', hc', rfl⟩ := hrings c hc
    obtain ⟨d', hd', rfl⟩ := hrings d hd
    have hrot' : c'.nodes ~r d'.nodes :=
      (canonical_isRotated c').symm.trans (hrot.trans (canonical_isRotated d'))
    rw [canonical_eq_of_isRotated hrot' hc'.nodup]
  · intro n hn
    rw [Option.mem_def.mp hn]
    exact List.foldlRecOn (motive := fun s : Search => s.found.size ≤ n)
      (after calls).nodeIds _ (Nat.zero_le n)
      fun _ hs root _ => size_fromRoot_le _ root hs
  · exact Nat.le_trans (Nat.le_add_right ..) hrested.budget

/-- **COMPLETENESS**: whatever calls make a graph, every closed walk shares a step with a ring
    that is found. So nothing goes round without the steps of the rings found, and nothing is
    found exactly if nothing goes round. Where a text belongs to one ring only, the steps of the
    cycles that are reported are enough. -/
theorem walks_meet_found_rings [Label α] [Weight ω] (calls : List (Call α ω)) :
    (∀ k : Cycle, k.Along (after calls).Joined →
      ∃ c, (after calls).Finds c ∧ ∃ p ∈ k.steps, p ∈ c.steps)
    ∧ Acyclic (fun u v => (after calls).Joined u v
        ∧ ∀ c, (after calls).Finds c → (u, v) ∉ c.steps)
    ∧ ((after calls).cycles none = [] ↔ Acyclic (after calls).Joined)
    ∧ ((after calls).TellsRings → Acyclic (fun u v => (after calls).Joined u v
        ∧ ∀ c ∈ (after calls).cycles none, (u, v) ∉ c.steps)) := by
  have h : (after calls).WellFormed := WellFormed.after calls
  refine ⟨fun k hk => h.exists_found_ring hk, ?_, ?_, ?_⟩
  · intro k hk
    obtain ⟨c, hc, p, hp, hpc⟩ := h.exists_found_ring ⟨hk.two_le, fun p hp => (hk.steps p hp).1⟩
    exact (hk.steps p hp).2 c hc hpc
  · constructor
    · intro hnone k hk
      obtain ⟨c, ⟨-, htext⟩, -⟩ := h.exists_found_ring hk
      rw [hnone] at htext
      exact nomatch htext
    · intro hacyclic
      refine List.eq_nil_iff_forall_not_mem.mpr fun c hc => ?_
      obtain ⟨d, hd, -⟩ := (h.rested_search none).records.rings c (Array.mem_toList_iff.mp hc)
      exact hacyclic d (h.leads_eq ▸ hd.toAlong)
  · intro htells k hk
    obtain ⟨c, ⟨hring, htext⟩, p, hp, hpc⟩ :=
      h.exists_found_ring ⟨hk.two_le, fun p hp => (hk.steps p hp).1⟩
    obtain ⟨d, hd, hdtext⟩ := List.mem_map.mp htext
    obtain ⟨d', hd', rfl⟩ := (h.rested_search none).records.rings d (Array.mem_toList_iff.mp hd)
    rw [h.leads_eq] at hd'
    have heq : c.canonical = d'.canonical := htells c d' hring hd' hdtext.symm
    refine (hk.steps p hp).2 _ hd ?_
    rw [← heq]
    exact (mem_steps_of_isRotated (canonical_isRotated c)).mpr hpc

end SourceAtlas.Graph
