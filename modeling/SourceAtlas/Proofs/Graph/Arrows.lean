import SourceAtlas.Proofs.Graph.Recount
import SourceAtlas.Proofs.Graph.Rings
import SourceAtlas.Proofs.Search.Reached

/-! # Arrows in the texts of cycles

    Two rings are taken for the same if their canonical forms have one text.
    The text puts arrows between the identifiers, so it can be read back as long
    as no identifier has an arrow of its own (`ArrowFree`): the first arrow of
    the text ends the first identifier (`first_arrow`), and so on to the end
    (`intercalate_injective`).  Then a text belongs to the rotations of one
    cycle only (`canonical_text_eq_iff`), and a ring that the search closes is
    dropped only if it has been found (`tells_rings`).

    An identifier is a path, and nothing keeps arrows out of those: three files
    in a ring can have the text of two (`not_tells_arrows`). -/

namespace SourceAtlas

namespace Cycle

/-- What stands between two nodes in the text of a cycle. -/
def arrow : List Char := [' ', '-', '>', ' ']

/-- An identifier has no arrow in it, and makes none with the space in front of the next one. -/
def ArrowFree (id : String) : Prop :=
  ¬ arrow <:+: id.toList ++ [' ']

instance (id : String) : Decidable (ArrowFree id) :=
  inferInstanceAs (Decidable (¬ _))

/-! ## Reading a text back -/

/-- Of two arrows in one text, the second one is the first one, or begins with its last space or
    behind it. -/
theorem arrow_overlap {gap r s : List Char} (h : arrow ++ r = gap ++ (arrow ++ s)) :
    gap = [] ∨ arrow <+: gap ++ [' '] := by
  match gap with
  | [] => exact Or.inl rfl
  | [c] => simp [arrow] at h
  | [c, d] => simp [arrow] at h
  | [c, d, e] =>
      simp only [arrow, List.cons_append, List.nil_append, List.cons.injEq] at h
      obtain ⟨rfl, rfl, rfl, -⟩ := h
      exact Or.inr ⟨[], rfl⟩
  | c :: d :: e :: f :: gap =>
      simp only [arrow, List.cons_append, List.nil_append, List.cons.injEq] at h
      obtain ⟨rfl, rfl, rfl, rfl, -⟩ := h
      exact Or.inr ⟨gap ++ [' '], rfl⟩

/-- The first arrow of a text ends what has no arrow in it. -/
theorem first_arrow {u v r s : List Char} (hu : ¬ arrow <:+: u ++ [' '])
    (hv : ¬ arrow <:+: v ++ [' ']) (h : u ++ (arrow ++ r) = v ++ (arrow ++ s)) :
    u = v ∧ r = s := by
  -- One of the two is the other one and a gap; unless that is empty, an arrow begins in it.
  suffices huv : u = v from ⟨huv, List.append_cancel_left (List.append_cancel_left (huv ▸ h))⟩
  rcases List.append_eq_append_iff.mp h with ⟨gap, rfl, hgap⟩ | ⟨gap, rfl, hgap⟩
  · rcases arrow_overlap hgap with rfl | hin
    · exact (List.append_nil u).symm
    · rw [List.append_assoc] at hv
      exact absurd (hin.isInfix.trans (List.suffix_append u _).isInfix) hv
  · rcases arrow_overlap hgap with rfl | hin
    · exact List.append_nil v
    · rw [List.append_assoc] at hu
      exact absurd (hin.isInfix.trans (List.suffix_append v _).isInfix) hu

/-- What has no arrow in it is not two items with an arrow between them. -/
theorem ne_append_arrow {u v r : List Char} (hu : ¬ arrow <:+: u ++ [' ']) :
    u ≠ v ++ (arrow ++ r) := by
  rintro rfl
  exact hu ⟨v, r ++ [' '], by simp only [List.append_assoc]⟩

/-- Items without arrows can be read back from the text that puts arrows between them. -/
theorem intercalate_injective {xs ys : List (List Char)} (hxs : xs ≠ []) (hys : ys ≠ [])
    (hx : ∀ u ∈ xs, ¬ arrow <:+: u ++ [' ']) (hy : ∀ v ∈ ys, ¬ arrow <:+: v ++ [' '])
    (h : arrow.intercalate xs = arrow.intercalate ys) : xs = ys := by
  -- The first arrows end the first items; a text without one is a single item.
  induction xs generalizing ys with
  | nil => exact absurd rfl hxs
  | cons u xs ih =>
      obtain ⟨v, ys, rfl⟩ := List.exists_cons_of_ne_nil hys
      have hu := hx u (List.mem_cons_self ..)
      have hv := hy v (List.mem_cons_self ..)
      cases xs with
      | nil =>
          cases ys with
          | nil =>
              rw [List.intercalate_singleton, List.intercalate_singleton] at h
              rw [h]
          | cons w ys =>
              rw [List.intercalate_singleton, List.intercalate_cons_cons, List.append_assoc] at h
              exact absurd h (ne_append_arrow hu)
      | cons u' xs =>
          cases ys with
          | nil =>
              rw [List.intercalate_singleton, List.intercalate_cons_cons, List.append_assoc] at h
              exact absurd h.symm (ne_append_arrow hv)
          | cons w ys =>
              rw [List.intercalate_cons_cons, List.intercalate_cons_cons, List.append_assoc,
                List.append_assoc] at h
              obtain ⟨rfl, hrest⟩ := first_arrow hu hv h
              rw [ih (List.cons_ne_nil _ _) (List.cons_ne_nil _ _)
                (fun w hw => hx w (List.mem_cons_of_mem _ hw))
                (fun w hw => hy w (List.mem_cons_of_mem _ hw)) hrest]

/-! ## The texts of cycles -/

/-- The nodes that are written, with the first one again at the end. -/
def written (c : Cycle) : List String :=
  c.nodes ++ c.nodes.take 1

theorem toList_text (c : Cycle) :
    c.text.toList = arrow.intercalate (c.written.map String.toList) := by
  obtain ⟨nodes⟩ := c
  cases nodes with
  | nil => rfl
  | cons first rest => exact String.toList_intercalate

theorem mem_of_mem_written {c : Cycle} {v : String} (h : v ∈ c.written) : v ∈ c.nodes :=
  (List.mem_append.mp h).elim (fun h => h) List.mem_of_mem_take

theorem eq_of_written_eq {c d : Cycle} (h : c.written = d.written) : c = d := by
  obtain ⟨nodes⟩ := c
  obtain ⟨nodes'⟩ := d
  match nodes, nodes', h with
  | [], [], _ => rfl
  | _ :: _, _ :: _, h => exact congrArg Cycle.mk (List.append_inj' h rfl).1

theorem text_eq_empty_iff {c : Cycle} : c.text = "" ↔ c.nodes = [] := by
  obtain ⟨nodes⟩ := c
  cases nodes with
  | nil => exact iff_of_true rfl rfl
  | cons first rest =>
      refine iff_of_false (fun h => ?_) (List.cons_ne_nil _ _)
      obtain ⟨next, others, hrest⟩ : ∃ next others, rest ++ [first] = next :: others :=
        List.exists_cons_of_ne_nil (List.concat_ne_nil _ _)
      have htext : (Cycle.mk (first :: rest)).text = " -> ".intercalate (first :: next :: others) :=
        congrArg (" -> ".intercalate <| first :: ·) hrest
      rw [htext, String.intercalate_cons_cons] at h
      simp at h

/-- Cycles of identifiers without arrows have different texts. -/
theorem eq_of_text_eq {c d : Cycle} (hc : ∀ v ∈ c.nodes, ArrowFree v)
    (hd : ∀ v ∈ d.nodes, ArrowFree v) (h : c.text = d.text) : c = d := by
  by_cases hcn : c.nodes = []
  · have hdn : d.nodes = [] := text_eq_empty_iff.mp (h ▸ text_eq_empty_iff.mpr hcn)
    exact congrArg Cycle.mk (hcn.trans hdn.symm)
  · have hdn : d.nodes ≠ [] := fun hdn => hcn (text_eq_empty_iff.mp (h ▸ text_eq_empty_iff.mpr hdn))
    have hfree : ∀ {c : Cycle}, (∀ v ∈ c.nodes, ArrowFree v) →
        ∀ u ∈ c.written.map String.toList, ¬ arrow <:+: u ++ [' '] := by
      intro c hc u hu
      obtain ⟨v, hv, rfl⟩ := List.mem_map.mp hu
      exact hc v (mem_of_mem_written hv)
    have hne : ∀ {c : Cycle}, c.nodes ≠ [] → c.written.map String.toList ≠ [] := fun hn hw =>
      hn (List.append_eq_nil_iff.mp (List.map_eq_nil_iff.mp hw)).1
    have hwritten : c.written.map String.toList = d.written.map String.toList := by
      refine intercalate_injective (hne hcn) (hne hdn) (hfree hc) (hfree hd) ?_
      rw [← toList_text, ← toList_text, h]
    exact eq_of_written_eq (List.map_injective_iff.mpr (fun _ _ => String.toList_inj.mp) hwritten)

/-- Where no identifier has an arrow in it, the texts of the canonical forms tell cycles apart that
    are not rotations of each other. -/
theorem canonical_text_eq_iff {c d : Cycle} (hnodup : c.nodes.Nodup)
    (hc : ∀ v ∈ c.nodes, ArrowFree v) (hd : ∀ v ∈ d.nodes, ArrowFree v) :
    c.canonical.text = d.canonical.text ↔ c.nodes ~r d.nodes := by
  constructor
  · intro h
    have hcanonical : c.canonical = d.canonical :=
      eq_of_text_eq (fun v hv => hc v ((canonical_isRotated c).mem_iff.mp hv))
        (fun v hv => hd v ((canonical_isRotated d).mem_iff.mp hv)) h
    exact (canonical_isRotated c).symm.trans (hcanonical ▸ canonical_isRotated d)
  · intro h
    rw [canonical_eq_of_isRotated h hnodup]

end Cycle

/-! ## The rings of a graph -/

namespace Graph

open SourceAtlas.Cycle Search

variable {α ω : Type}

/-- What a search closes goes through nodes of the graph. -/
theorem WellFormed.mem_nodeIds_of_isRing {g : Graph α ω} (h : g.WellFormed) {c : Cycle}
    (hc : c.IsRing (Leads g.adjacency)) {v : String} (hv : v ∈ c.canonical.nodes) :
    v ∈ g.nodeIds := by
  obtain ⟨u, hu⟩ := exists_step_to hv
  exact h.fits.mem u v (hc.canonical.steps _ hu)

/-- A ring of a graph without arrows is among those found as soon as its text is. -/
theorem WellFormed.mem_found_iff {g : Graph α ω} (h : g.WellFormed)
    (hfree : ∀ id ∈ g.nodeIds, ArrowFree id) {s : Search} (hs : Records g.adjacency s) {c : Cycle}
    (hc : c.IsRing (Leads g.adjacency)) :
    c.canonical.text ∈ s.found.toList.map Cycle.text ↔ c.canonical ∈ s.found := by
  constructor
  · intro hin
    obtain ⟨d, hd, htext⟩ := List.mem_map.mp hin
    -- What has been found is canonical as well, so the texts are told apart by the identifiers.
    obtain ⟨d', hd', rfl⟩ := hs.rings d (Array.mem_toList_iff.mp hd)
    have hdc : d'.canonical = c.canonical :=
      eq_of_text_eq (fun v hv => hfree v (h.mem_nodeIds_of_isRing hd' hv))
        (fun v hv => hfree v (h.mem_nodeIds_of_isRing hc hv)) htext
    exact hdc ▸ Array.mem_toList_iff.mp hd
  · exact fun hin => List.mem_map.mpr ⟨_, Array.mem_toList_iff.mpr hin, rfl⟩

/-- **NO RING IS TAKEN FOR ANOTHER, BUT FOR ARROWS**: where no identifier has an arrow in it, two
    cycles without repetition have one text in canonical form exactly if they are rotations of each
    other.  So whatever calls make a graph and wherever its search has come to, a ring that the
    search closes is dropped if that very ring has been found, and found otherwise.  Where there are
    arrows, it is dropped exactly if a ring with its text has been found. -/
theorem tells_rings [Label α] [Weight ω] (calls : List (Call α ω)) :
    (∀ c d : Cycle, c.nodes.Nodup → d.nodes.Nodup → (∀ id ∈ c.nodes ++ d.nodes, ArrowFree id) →
      (c.canonical.text = d.canonical.text ↔ c.nodes ~r d.nodes))
    ∧ (∀ limit, Reached (after calls).adjacency (after calls).nodeIds ((after calls).search limit))
    ∧ ∀ s start s', Reached (after calls).adjacency (after calls).nodeIds s → s.BackAt start →
        s.step (after calls).adjacency = some s' →
      (s'.found = if (s.closedAt start).text ∈ s.found.toList.map Cycle.text then s.found
        else s.found.push (s.closedAt start))
      ∧ ((∀ id ∈ (after calls).nodeIds, ArrowFree id) →
        s'.found = if s.closedAt start ∈ s.found then s.found
          else s.found.push (s.closedAt start)) := by
  have h : (after calls).WellFormed := WellFormed.after calls
  refine ⟨?_, ?_, ?_⟩
  · intro c d hc _ hfree
    exact canonical_text_eq_iff hc (fun v hv => hfree v (List.mem_append_left _ hv))
      fun v hv => hfree v (List.mem_append_right _ hv)
  · intro limit
    exact Reached.foldl h.fits (WellFormed.length_lt_searchFuel _) (h.rested_start limit)
  · intro s start s' hs hback hstep
    have hsound := hs.sound h.fits
    have hfound := hsound.found_step hback hstep
    refine ⟨hfound, fun hfree => ?_⟩
    obtain ⟨c, hc, hclosed⟩ := hsound.exists_ring h.fits hback
    rw [hfound]
    refine if_congr ?_ rfl rfl
    rw [hclosed]
    exact h.mem_found_iff hfree hsound.records hc

/-- The calls for a ring of three files. -/
def ringCalls : List (Addition String) :=
  ["a.py", "b.py", "c.py"].map (.node · "" "python")
    ++ [("a.py", "b.py"), ("b.py", "c.py"), ("c.py", "a.py")].map
      fun (source, target) => .edge source target "import" 1

/-- The graph that these calls make. -/
def ringGraph : Graph String Int :=
  after (ringCalls.map Addition.call)

theorem nodeIds_ringGraph : ringGraph.nodeIds = ["a.py", "b.py", "c.py"] := by
  rw [ringGraph, (Recounted.after ringCalls).nodeOrder]
  decide

/-- The search comes from the first file to the third one, which leads back. -/
theorem exists_backAt_ringGraph :
    ∃ s, Reached ringGraph.adjacency ringGraph.nodeIds s ∧ s.BackAt 0 ∧ s.found = #[]
      ∧ s.path = #["a.py", "b.py", "c.py"] := by
  have h : Recounted ringCalls ringGraph := Recounted.after ringCalls
  have hfirst : ringGraph.adjacency.getD "a.py" [] = ["b.py"] :=
    (h.getD_adjacency (by decide)).trans (by decide)
  have hsecond : ringGraph.adjacency.getD "b.py" [] = ["c.py"] :=
    (h.getD_adjacency (by decide)).trans (by decide)
  have hthird : ringGraph.adjacency.getD "c.py" [] = ["a.py"] :=
    (h.getD_adjacency (by decide)).trans (by decide)
  have hroot : Reached ringGraph.adjacency ringGraph.nodeIds
      (({} : Search).enter ringGraph.adjacency "a.py") :=
    Reached.start.root rfl (by rw [nodeIds_ringGraph]; decide) Std.HashSet.not_mem_empty
  have hentered := hroot.step
    (step_enter (by rw [enter, hfirst]) (by simp [enter]) (by simp [enter]))
  refine ⟨_, hentered.step
    (step_enter (by rw [enter, hsecond]) (by simp [enter, advance]) (by simp [enter, advance])),
    ⟨"a.py", _, _, by rw [enter, hthird], ?_⟩, rfl, rfl⟩
  simp [enter, advance, Std.HashMap.getElem_insert]

/-- The text of a ring of three files is the same wherever it begins, and the step that closes the
    ring finds it. -/
theorem tells_rings_of_three :
    ((Cycle.mk ["b.py", "c.py", "a.py"]).canonical.text
        = (Cycle.mk ["a.py", "b.py", "c.py"]).canonical.text
      ↔ ["b.py", "c.py", "a.py"] ~r ["a.py", "b.py", "c.py"])
    ∧ ["b.py", "c.py", "a.py"] ~r ["a.py", "b.py", "c.py"]
    ∧ ∃ s s', Reached ringGraph.adjacency ringGraph.nodeIds s ∧ s.BackAt 0
      ∧ s.step ringGraph.adjacency = some s' ∧ s.found = #[]
      ∧ s'.found = #[⟨["a.py", "b.py", "c.py"]⟩] := by
  refine ⟨(tells_rings ([] : List (Call String Int))).1 ⟨["b.py", "c.py", "a.py"]⟩
    ⟨["a.py", "b.py", "c.py"]⟩ (by decide) (by decide) (by decide), by decide, ?_⟩
  obtain ⟨s, hreached, hback, hfound, hpath⟩ := exists_backAt_ringGraph
  obtain ⟨s', hstep⟩ := hback.exists_step
  refine ⟨s, s', hreached, hback, hstep, hfound, ?_⟩
  have hfree : ∀ id ∈ ringGraph.nodeIds, ArrowFree id := by
    rw [nodeIds_ringGraph]
    decide
  have hclosed : s.closedAt 0 = ⟨["a.py", "b.py", "c.py"]⟩ := by
    rw [closedAt, hpath]
    decide
  rw [((tells_rings (ringCalls.map Addition.call)).2.2 s 0 s' hreached hback hstep).2 hfree,
    hclosed, hfound]
  exact if_neg (Array.not_mem_empty _)

/-! ## Arrows in file names -/

/-- The calls for a ring of three files, and for a ring of the first of them and a file that is
    named after the others. -/
def arrowCalls : List (Addition String) :=
  ["a", "b", "c", "b -> c"].map (.node · "" "python")
    ++ [("a", "b"), ("b", "c"), ("c", "a"), ("a", "b -> c"), ("b -> c", "a")].map
      fun (source, target) => .edge source target "import" 1

/-- The graph that these calls make. -/
def arrowGraph : Graph String Int :=
  after (arrowCalls.map Addition.call)

theorem joined_arrowGraph {u v : String} (h : (u, v) ∈ (takenEdges arrowCalls).map Edge.ends) :
    arrowGraph.Joined u v := by
  rw [← List.mem_eraseDups, ← (Recounted.after arrowCalls).edgeOrder, List.mem_map] at h
  obtain ⟨e, he, hends⟩ := h
  exact ⟨e, Array.mem_toList_iff.mp he, hends⟩

/-- Both are rings of the graph and neither is a rotation of the other, but they have one text, so
    one of them is not found. -/
theorem not_tells_arrows :
    (Cycle.mk ["a", "b", "c"]).IsRing arrowGraph.Joined
    ∧ (Cycle.mk ["a", "b -> c"]).IsRing arrowGraph.Joined
    ∧ ¬ ["a", "b", "c"] ~r ["a", "b -> c"]
    ∧ (Cycle.mk ["a", "b", "c"]).canonical.text = (Cycle.mk ["a", "b -> c"]).canonical.text
    ∧ ¬ ((Cycle.mk ["a", "b", "c"]).canonical ∈ arrowGraph.cycles none
      ∧ (Cycle.mk ["a", "b -> c"]).canonical ∈ arrowGraph.cycles none) := by
  have hwf : arrowGraph.WellFormed := WellFormed.after _
  have htext : (Cycle.mk ["a", "b", "c"]).canonical.text
      = (Cycle.mk ["a", "b -> c"]).canonical.text := by decide
  have hthree : ∀ p ∈ (Cycle.mk ["a", "b", "c"]).steps,
      (p.1, p.2) ∈ (takenEdges arrowCalls).map Edge.ends := by decide
  have htwo : ∀ p ∈ (Cycle.mk ["a", "b -> c"]).steps,
      (p.1, p.2) ∈ (takenEdges arrowCalls).map Edge.ends := by decide
  refine ⟨⟨⟨by decide, fun p hp => joined_arrowGraph (hthree p hp)⟩, by decide⟩,
    ⟨⟨by decide, fun p hp => joined_arrowGraph (htwo p hp)⟩, by decide⟩, by decide, htext, ?_⟩
  rintro ⟨h, h'⟩
  have hsame := List.inj_on_of_nodup_map (hwf.rested_search none).records.texts_nodup h h' htext
  exact absurd hsame (by decide)

end Graph

end SourceAtlas
