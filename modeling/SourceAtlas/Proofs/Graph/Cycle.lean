import Mathlib.Data.List.Rotate
import SourceAtlas.Graph.Cycle
import SourceAtlas.Proofs.Text.Order

/-! # Cycles as walks

    A cycle is a list of nodes that is read round and round.  `Cycle.steps` are
    the pairs it goes through, from each node to the next and from the last to
    the first.  Along a relation, `Cycle.Along` is a closed walk and
    `Cycle.IsRing` one that meets no node twice.

    The canonical form is a rotation (`canonical_isRotated`), so it has the same
    steps, it starts at the smallest node (`canonical_startsLeast`), and nothing
    is left to rotate then (`canonical_eq_self`).  Lists without repetition are
    rotations of each other exactly if they have one canonical form
    (`canonical_rotation`); where nodes repeat, rotations can have several, as
    there are several smallest nodes to start at.

    The smallest node is the smallest by code points.  That is the usual order as
    long as no node has a character that stands for half of a surrogate pair
    (`StartsLeast.le`). -/

namespace SourceAtlas.Cycle

open Text

/-- The pairs of nodes that follow each other: each node and the next, the last node and the
    first. -/
def steps (c : Cycle) : List (String × String) :=
  c.nodes.zip (c.nodes.rotate 1)

/-- A closed walk of at least two steps along a relation. -/
structure Along (r : String → String → Prop) (c : Cycle) : Prop where
  two_le : 2 ≤ c.length
  steps : ∀ p ∈ c.steps, r p.1 p.2

/-- A closed walk that meets no node twice. -/
structure IsRing (r : String → String → Prop) (c : Cycle) : Prop extends c.Along r where
  nodup : c.nodes.Nodup

/-- The cycle begins at its smallest node. -/
def StartsLeast (c : Cycle) : Prop :=
  ∃ first, c.nodes.head? = some first
    ∧ ∀ v ∈ c.nodes, precedes v.toList first.toList = false

/-- Where no node has halves of surrogate pairs in it, the first one is the smallest in the usual
    order of texts. -/
theorem StartsLeast.le {c : Cycle} (h : c.StartsLeast)
    (hform : ∀ v ∈ c.nodes, isWellFormed v = true) :
    ∃ first, c.nodes.head? = some first ∧ ∀ v ∈ c.nodes, first ≤ v := by
  obtain ⟨first, hfirst, hleast⟩ := h
  refine ⟨first, hfirst, fun v hv => ?_⟩
  have hnot : ¬ v < first := by
    rw [← precedes_toList_iff_lt (hform v hv) (hform first (List.mem_of_head? hfirst)),
      hleast v hv]
    exact nofun
  exact hnot

/-- No cycle goes along a relation. -/
def Acyclic (r : String → String → Prop) : Prop :=
  ∀ c : Cycle, ¬ c.Along r

/-! ## Steps -/

/-- Both ends of a step are nodes of the cycle. -/
theorem mem_of_mem_steps {c : Cycle} {p : String × String} (h : p ∈ c.steps) :
    p.1 ∈ c.nodes ∧ p.2 ∈ c.nodes := by
  obtain ⟨h1, h2⟩ := List.of_mem_zip (a := p.1) (b := p.2) h
  exact ⟨h1, List.mem_rotate.mp h2⟩

/-- Every node is reached by a step. -/
theorem exists_step_to {c : Cycle} {v : String} (h : v ∈ c.nodes) :
    ∃ u, (u, v) ∈ c.steps := by
  have hmap : c.steps.map Prod.snd = c.nodes.rotate 1 :=
    List.map_snd_zip (by rw [List.length_rotate])
  have hv : v ∈ c.steps.map Prod.snd := by
    rw [hmap]
    exact List.mem_rotate.mpr h
  obtain ⟨p, hp, rfl⟩ := List.mem_map.mp hv
  exact ⟨p.1, hp⟩

/-- Rotations have the same steps. -/
theorem mem_steps_of_isRotated {c d : Cycle} (h : c.nodes ~r d.nodes) {p : String × String} :
    p ∈ c.steps ↔ p ∈ d.steps := by
  obtain ⟨n, hn⟩ := h
  -- To rotate the nodes is to rotate the steps.
  have hzip : d.steps = c.steps.rotate n := by
    rw [steps, steps, ← hn, List.rotate_rotate, Nat.add_comm, ← List.rotate_rotate]
    exact (List.zipWith_rotate_distrib Prod.mk _ _ n (List.length_rotate ..).symm).symm
  rw [hzip, List.mem_rotate]

theorem steps_cons (first : String) (rest : List String) :
    (Cycle.mk (first :: rest)).steps = (first :: rest).zip (rest ++ [first]) := by
  rw [steps, List.rotate_cons_succ, List.rotate_zero]

/-- The pairs of a path and of one more step from its last node. -/
theorem zip_shift_of_isChain {r : String → String → Prop} {target : String} :
    ∀ (rest : List String) (first last : String), (first :: rest).IsChain r →
      (first :: rest).getLast? = some last → r last target →
      (last, target) ∈ (first :: rest).zip (rest ++ [target])
        ∧ ∀ p ∈ (first :: rest).zip (rest ++ [target]), r p.1 p.2 := by
  intro rest
  induction rest with
  | nil =>
      intro first last _ hlast hback
      have hfl : first = last := Option.some.inj hlast
      subst hfl
      refine ⟨List.mem_singleton.mpr rfl, ?_⟩
      intro p hp
      rw [List.mem_singleton.mp hp]
      exact hback
  | cons next rest ih =>
      intro first last hchain hlast hback
      obtain ⟨hfn, hrest⟩ := List.isChain_cons_cons.mp hchain
      rw [List.getLast?_cons_cons] at hlast
      obtain ⟨hmem, hall⟩ := ih next last hrest hlast hback
      rw [List.cons_append, List.zip_cons_cons]
      refine ⟨List.mem_cons_of_mem _ hmem, ?_⟩
      intro p hp
      rcases List.mem_cons.mp hp with heq | htail
      · rw [heq]
        exact hfn
      · exact hall p htail

/-- A path whose last node leads back to its first is a closed walk. -/
theorem steps_of_isChain {r : String → String → Prop} {nodes : List String}
    (h : nodes.IsChain r) {first last : String} (hfirst : nodes.head? = some first)
    (hlast : nodes.getLast? = some last) (hback : r last first) :
    (last, first) ∈ (Cycle.mk nodes).steps ∧ ∀ p ∈ (Cycle.mk nodes).steps, r p.1 p.2 := by
  cases nodes with
  | nil => exact nomatch hfirst
  | cons v rest =>
      have hv : v = first := Option.some.inj hfirst
      subst hv
      rw [steps_cons]
      exact zip_shift_of_isChain rest v last h hlast hback

/-! ## The canonical form -/

/-- The least of some texts is one of them, and none of them precedes it. -/
theorem least_spec (first : String) (others : List String) :
    least first others ∈ first :: others
      ∧ ∀ v ∈ first :: others, precedes v.toList (least first others).toList = false := by
  induction others generalizing first with
  | nil =>
      refine ⟨List.mem_cons_self .., ?_⟩
      intro v hv
      rw [List.mem_singleton.mp hv]
      exact precedes_self _
  | cons other rest ih =>
      by_cases ho : precedes other.toList first.toList = true
      · have hstep : least first (other :: rest) = least other rest := by
          rw [least, List.foldl_cons, if_pos ho]
          rfl
        obtain ⟨hmem, hmin⟩ := ih other
        rw [hstep]
        refine ⟨List.mem_cons_of_mem _ hmem, ?_⟩
        intro v hv
        rcases List.mem_cons.mp hv with rfl | hv
        · -- What precedes the least text would be preceded by `other` too.
          have hother := hmin other (List.mem_cons_self ..)
          refine Bool.eq_false_iff.mpr fun hlt => ?_
          rw [precedes_trans ho hlt] at hother
          exact nomatch hother
        · exact hmin v hv
      · have hstep : least first (other :: rest) = least first rest := by
          rw [least, List.foldl_cons, if_neg ho]
          rfl
        obtain ⟨hmem, hmin⟩ := ih first
        rw [hstep]
        refine ⟨?_, ?_⟩
        · rcases List.mem_cons.mp hmem with heq | hmem
          · rw [heq]
            exact List.mem_cons_self ..
          · exact List.mem_cons_of_mem _ (List.mem_cons_of_mem _ hmem)
        · intro v hv
          rcases List.mem_cons.mp hv with rfl | hv
          · exact hmin v (List.mem_cons_self ..)
          rcases List.mem_cons.mp hv with rfl | hv
          · refine Bool.eq_false_iff.mpr fun hlt => ho ?_
            rcases precedes_trichotomy first.toList (least first rest).toList with h | h | h
            · rw [hmin first (List.mem_cons_self ..)] at h
              exact nomatch h
            · rw [h]
              exact hlt
            · exact precedes_trans hlt h
          · exact hmin v (List.mem_cons_of_mem _ hv)

/-- A cycle that is not empty is rotated to its least node. -/
theorem canonical_eq_rotate (first : String) (others : List String) :
    ∃ n, (Cycle.mk (first :: others)).canonical.nodes = (first :: others).rotate n
      ∧ (first :: others)[n]? = some (least first others) := by
  have hlt := List.idxOf_lt_length_of_mem (least_spec first others).1
  refine ⟨(first :: others).idxOf (least first others), ?_, ?_⟩
  · exact (List.rotate_eq_drop_append_take (Nat.le_of_lt hlt)).symm
  · rw [List.getElem?_eq_getElem hlt, List.getElem_idxOf hlt]

theorem canonical_isRotated (c : Cycle) : c.canonical.nodes ~r c.nodes := by
  obtain ⟨nodes⟩ := c
  cases nodes with
  | nil => exact List.IsRotated.refl []
  | cons first others =>
      obtain ⟨n, hn, -⟩ := canonical_eq_rotate first others
      rw [hn]
      exact List.IsRotated.forall _ n

theorem canonical_startsLeast {c : Cycle} (h : c.nodes ≠ []) : c.canonical.StartsLeast := by
  obtain ⟨nodes⟩ := c
  cases nodes with
  | nil => exact absurd rfl h
  | cons first others =>
      obtain ⟨n, hn, hat⟩ := canonical_eq_rotate first others
      refine ⟨least first others, ?_, ?_⟩
      · rw [hn, List.head?_rotate (List.getElem?_eq_some_iff.mp hat).1, hat]
      · intro v hv
        rw [hn, List.mem_rotate] at hv
        exact (least_spec first others).2 v hv

/-- Rotations without repetition that begin alike are the same. -/
theorem eq_of_isRotated_of_head? {l l' : List String} (h : l ~r l') (hl : l.Nodup)
    (hhead : l.head? = l'.head?) : l = l' := by
  cases l with
  | nil => exact (List.isRotated_nil_iff'.mp h)
  | cons v rest =>
      obtain ⟨n, hn, rfl⟩ := List.isRotated_iff_mod.mp h
      rcases Nat.lt_or_ge n (v :: rest).length with hlt | hge
      · rw [List.head?_rotate hlt, List.head?_cons] at hhead
        have h0 : 0 = n := (List.getElem?_inj (Nat.zero_lt_succ _) hl).mp hhead
        rw [← h0, List.rotate_zero]
      · rw [Nat.le_antisymm hn hge, List.rotate_length]

/-- Rotations without repetition have one canonical form. -/
theorem canonical_eq_of_isRotated {c d : Cycle} (h : c.nodes ~r d.nodes)
    (hc : c.nodes.Nodup) : c.canonical = d.canonical := by
  have hrot : c.canonical.nodes ~r d.canonical.nodes :=
    (canonical_isRotated c).trans (h.trans (canonical_isRotated d).symm)
  have hnodup : c.canonical.nodes.Nodup := (canonical_isRotated c).nodup_iff.mpr hc
  suffices hhead : c.canonical.nodes.head? = d.canonical.nodes.head? from
    congrArg Cycle.mk (eq_of_isRotated_of_head? hrot hnodup hhead)
  by_cases hnil : c.nodes = []
  · have hd : d.nodes = [] := by
      rw [hnil] at h
      exact (List.isRotated_nil_iff'.mp h).symm
    rw [canonical, canonical, hnil, hd]
  · have hd : d.nodes ≠ [] := by
      intro hd
      rw [hd] at h
      exact hnil (List.isRotated_nil_iff.mp h)
    -- Each begins at its smallest node, and they have the same nodes.
    obtain ⟨v, hv, hvmin⟩ := canonical_startsLeast hnil
    obtain ⟨w, hw, hwmin⟩ := canonical_startsLeast hd
    have hvmem := hrot.mem_iff.mp (List.mem_of_head? hv)
    have hwmem := hrot.mem_iff.mpr (List.mem_of_head? hw)
    have hvw : v = w := String.toList_inj.mp
      (eq_of_not_precedes (hwmin v hvmem) (hvmin w hwmem))
    rw [hv, hw, hvw]

/-- A cycle that begins at its smallest node is in canonical form, also if it comes to that node
    again. -/
theorem canonical_eq_self {c : Cycle} (h : c.StartsLeast) : c.canonical = c := by
  obtain ⟨nodes⟩ := c
  obtain ⟨v, hv, hmin⟩ := h
  obtain ⟨others, rfl⟩ := List.head?_eq_some_iff.mp hv
  obtain ⟨hmem, hleast⟩ := least_spec v others
  have hv : least v others = v := String.toList_inj.mp
    (eq_of_not_precedes (hmin _ hmem) (hleast v (List.mem_cons_self ..)))
  simp only [canonical, hv, List.idxOf_cons_self, List.drop_zero, List.take_zero,
    List.append_nil]

/-- **ROTATION**: the canonical form of any list of nodes is a rotation of it that begins at one of
    its smallest nodes, and is its own canonical form. Two lists without repetition have one
    canonical form exactly if they are rotations of each other. -/
theorem canonical_rotation (c d : Cycle) :
    c.canonical.nodes ~r c.nodes
    ∧ (c.nodes ≠ [] → c.canonical.StartsLeast)
    ∧ c.canonical.canonical = c.canonical
    ∧ (c.nodes.Nodup → d.nodes.Nodup → (c.canonical = d.canonical ↔ c.nodes ~r d.nodes)) := by
  refine ⟨canonical_isRotated c, canonical_startsLeast, ?_, fun hc _ => ⟨fun h => ?_, fun h => ?_⟩⟩
  · by_cases hnil : c.nodes = []
    · have hempty : c = ⟨[]⟩ := congrArg Cycle.mk hnil
      rw [hempty]
      rfl
    · exact canonical_eq_self (canonical_startsLeast hnil)
  · exact (canonical_isRotated c).symm.trans (h ▸ canonical_isRotated d)
  · exact canonical_eq_of_isRotated h hc

/-- Three files in a ring, entered at two of them. -/
theorem canonical_rotation_of_three :
    let c : Cycle := ⟨["b.py", "c.py", "a.py"]⟩
    let d : Cycle := ⟨["c.py", "a.py", "b.py"]⟩
    c.nodes ≠ [] ∧ c.nodes.Nodup ∧ d.nodes.Nodup ∧ c.canonical.StartsLeast
      ∧ (c.canonical = d.canonical ↔ c.nodes ~r d.nodes) :=
  have hall := canonical_rotation ⟨["b.py", "c.py", "a.py"]⟩ ⟨["c.py", "a.py", "b.py"]⟩
  ⟨List.cons_ne_nil _ _, by decide, by decide, hall.2.1 (List.cons_ne_nil _ _),
    hall.2.2.2 (by decide) (by decide)⟩

/-- Where a node comes twice, rotations can begin at different ones. -/
example :
    (Cycle.mk ["a", "b", "a", "c"]).canonical ≠ (Cycle.mk ["a", "c", "a", "b"]).canonical := by
  decide

/-- A ring is still a ring in its canonical form. -/
theorem IsRing.canonical {r : String → String → Prop} {c : Cycle} (h : c.IsRing r) :
    c.canonical.IsRing r where
  two_le := by
    rw [length, (canonical_isRotated c).perm.length_eq]
    exact h.two_le
  steps := fun p hp => h.steps p ((mem_steps_of_isRotated (canonical_isRotated c)).mp hp)
  nodup := (canonical_isRotated c).nodup_iff.mpr h.nodup

end SourceAtlas.Cycle
