import Mathlib.Algebra.BigOperators.Ring.Finset
import SourceAtlas.Proofs.Graph.Lookup

/-! # Edges as sums

    An edge that is added again gains weight.  So a graph whose edges are added
    one by one adds up what was asked for: the ends of its edges are the pairs
    that were asked for, the weight of an edge is the sum of all requests for
    its ends (`Sums`), and its kind is the kind of the first one (`FirstKinds`).
    `Sums.addEdge` and `FirstKinds.addEdge` are the steps that keep this.

    If all requests have weight one, the edges are a tally of the pairs
    (`Tallies`), and by `Tallies.sum_weight` the weights add up to the number of
    requests. -/

namespace SourceAtlas

variable {α ω : Type}

namespace Graph

/-- The edge between two paths once one of a given weight was added: the edge that was there,
    raised, or a new one. -/
def gained [Weight ω] (g : Graph α ω) (source target : String) (kind : α) (weight : ω) :
    Edge α ω :=
  ((g.edge? source target).map (Edge.raised weight)).getD
    ⟨Path.normalize source, Path.normalize target, kind, weight⟩

theorem ends_gained [Weight ω] {g : Graph α ω} (h : g.WellFormed) (source target : String)
    (kind : α) (weight : ω) :
    (g.gained source target kind weight).ends
      = (Path.normalize source, Path.normalize target) := by
  rw [gained]
  cases he : g.edge? source target with
  | none => rfl
  | some e =>
      rw [Option.map_some, Option.getD_some, Edge.ends_raised]
      exact ((h.edge?_eq_some_iff source target e).mp he).2

/-- After an edge was added, the edges are those with other ends and the gained one. -/
theorem WellFormed.mem_addEdge [Label α] [Weight ω] {g : Graph α ω} (h : g.WellFormed)
    {source target : String} (ha : g.accepts source target = true) (kind : α) (weight : ω)
    (e : Edge α ω) :
    e ∈ (g.addEdge source target kind weight).edges
      ↔ (e ∈ g.edges ∧ e.ends ≠ (Path.normalize source, Path.normalize target))
        ∨ e = g.gained source target kind weight := by
  rcases addEdge_cases g source target kind weight with
    ⟨hno, -⟩ | ⟨-, hnew, heq⟩ | ⟨-, i, hi, heq⟩
  · exact absurd (ha.symm.trans hno) nofun
  · have hnone : g.edge? source target = none := by
      rw [edge?, Std.HashMap.getElem?_eq_none hnew, Option.bind_none]
    rw [heq, Array.mem_push, gained, hnone, Option.map_none, Option.getD_none]
    refine or_congr_left ⟨fun he => ⟨he, ?_⟩, And.left⟩
    intro hends
    exact hnew (h.edgeIndex.mem_iff.mpr ⟨e, he, hends⟩)
  · -- The index leads to one edge, and no other edge has its ends.
    obtain ⟨known, hknown, hends⟩ := Option.map_eq_some_iff.mp ((h.edgeIndex _ i).mp hi)
    have hsome : g.edge? source target = some known := by
      rw [edge?, hi, Option.bind_some, hknown]
    rw [heq, gained, hsome, Option.map_some, Option.getD_some, Array.mem_iff_getElem?]
    constructor
    · rintro ⟨j, hj⟩
      rw [Array.getElem?_modify] at hj
      by_cases hij : i = j
      · rw [if_pos hij, ← hij, hknown, Option.map_some] at hj
        exact Or.inr (Option.some.inj hj).symm
      · rw [if_neg hij] at hj
        refine Or.inl ⟨Array.mem_of_getElem? hj, ?_⟩
        intro hsame
        have hj' := (h.edgeIndex _ j).mpr (by rw [hj, Option.map_some, hsame])
        exact hij (Option.some.inj (hi.symm.trans hj'))
    · rintro (⟨he, hother⟩ | rfl)
      · obtain ⟨j, hj⟩ := Array.mem_iff_getElem?.mp he
        refine ⟨j, ?_⟩
        have hij : i ≠ j := by
          rintro rfl
          exact hother ((congrArg Edge.ends (Option.some.inj (hj.symm.trans hknown))).trans hends)
        rw [Array.getElem?_modify, if_neg hij, hj]
      · exact ⟨i, by rw [Array.getElem?_modify, if_pos rfl, hknown, Option.map_some]⟩

/-- An edge that was added brings its ends and its kind, and an edge that was there keeps those it
    had. -/
theorem WellFormed.origin_addEdge [Label α] [Weight ω] {g : Graph α ω} (h : g.WellFormed)
    {source target : String} (ha : g.accepts source target = true) (kind : α) (weight : ω)
    {e : Edge α ω} (he : e ∈ (g.addEdge source target kind weight).edges) :
    (e.ends = (Path.normalize source, Path.normalize target) ∧ e.kind = kind)
      ∨ ∃ known ∈ g.edges, e.ends = known.ends ∧ e.kind = known.kind := by
  rcases (h.mem_addEdge ha kind weight e).mp he with ⟨hold, -⟩ | rfl
  · exact Or.inr ⟨e, hold, rfl, rfl⟩
  · rw [gained]
    cases hknown : g.edge? source target with
    | none => exact Or.inl ⟨rfl, rfl⟩
    | some known =>
        exact Or.inr ⟨known, ((h.edge?_eq_some_iff source target known).mp hknown).1, rfl, rfl⟩

/-- The edge between two paths after an edge was added between them: the kind is that of the edge
    that was there, if there was one. -/
theorem kind_gained [Weight ω] (g : Graph α ω) (source target : String) (kind : α) (weight : ω) :
    (g.gained source target kind weight).kind
      = ((g.edge? source target).map (·.kind)).getD kind := by
  rw [gained]
  cases g.edge? source target with
  | none => rfl
  | some e => rfl

end Graph

/-! ## Sums -/

/-- The weight that requests, each a pair of ends with a weight, add up to for some ends. -/
def weightAsked (asked : List ((String × String) × Int)) (ends : String × String) : Int :=
  ((asked.filter (·.1 = ends)).map (·.2)).sum

theorem weightAsked_concat (asked : List ((String × String) × Int)) (ends last : String × String)
    (weight : Int) :
    weightAsked (asked ++ [(last, weight)]) ends
      = weightAsked asked ends + if last = ends then weight else 0 := by
  rw [weightAsked, weightAsked, List.filter_append, List.map_append, List.sum_append,
    List.filter_singleton]
  by_cases h : last = ends
  · rw [if_pos h, decide_eq_true h]
    exact congrArg _ (Int.add_zero weight)
  · rw [if_neg h, decide_eq_false h]
    rfl

/-- What was never asked for weighs nothing. -/
theorem weightAsked_of_not_mem {asked : List ((String × String) × Int)} {ends : String × String}
    (h : ends ∉ asked.map (·.1)) : weightAsked asked ends = 0 := by
  have hnone : asked.filter (·.1 = ends) = [] := by
    refine List.filter_eq_nil_iff.mpr ?_
    intro a ha hends
    exact h (List.mem_map.mpr ⟨a, ha, of_decide_eq_true hends⟩)
  rw [weightAsked, hnone]
  rfl

/-- Requests of weight one are counted. -/
theorem weightAsked_ones (asked : List (String × String)) (ends : String × String) :
    weightAsked (asked.map (·, 1)) ends = asked.count ends := by
  induction asked with
  | nil => rfl
  | cons a rest ih =>
      rw [weightAsked] at ih ⊢
      rw [List.map_cons, List.count_cons, Int.natCast_add, ← ih, List.filter_cons]
      by_cases h : a = ends
      · rw [if_pos (decide_eq_true h), if_pos (beq_iff_eq.mpr h), List.map_cons, List.sum_cons,
          Int.add_comm]
        rfl
      · rw [if_neg (by rw [decide_eq_false h]; exact Bool.false_ne_true),
          if_neg (fun hb => h (beq_iff_eq.mp hb))]
        exact (Int.add_zero _).symm

/-- The edges add up requests: there is one for every pair that was asked for, and its weight is the
    sum of what was asked for. -/
structure Sums (asked : List ((String × String) × Int)) (edges : List (Edge α)) : Prop where
  weight : ∀ e ∈ edges, e.weight = weightAsked asked e.ends
  mem_iff : ∀ ends, ends ∈ asked.map (·.1) ↔ ∃ e ∈ edges, e.ends = ends

namespace Sums

variable {asked : List ((String × String) × Int)}

theorem nil : Sums [] ([] : List (Edge α)) where
  weight := fun _ h => nomatch h
  mem_iff := by
    intro ends
    simp

/-- A pair has no edge exactly if it was never asked for. -/
theorem edge?_eq_none_iff {g : Graph α} (h : Sums asked g.edges.toList) (hg : g.WellFormed)
    (source target : String) :
    g.edge? source target = none
      ↔ (Path.normalize source, Path.normalize target) ∉ asked.map (·.1) := by
  rw [h.mem_iff, Option.eq_none_iff_forall_ne_some, not_exists]
  refine forall_congr' fun e => ?_
  rw [ne_eq, hg.edge?_eq_some_iff, Array.mem_toList_iff]

/-- One more request. -/
theorem addEdge [Label α] {g : Graph α} (h : Sums asked g.edges.toList) (hg : g.WellFormed)
    {source target : String} (ha : g.accepts source target = true) (kind : α) (weight : Int) :
    Sums (asked ++ [((Path.normalize source, Path.normalize target), weight)])
      (g.addEdge source target kind weight).edges.toList := by
  have hmem : ∀ e, e ∈ (g.addEdge source target kind weight).edges.toList ↔ _ := fun e =>
    Array.mem_toList_iff.trans (hg.mem_addEdge ha kind weight e)
  have hends := g.ends_gained hg source target kind weight
  constructor
  · intro e he
    rw [weightAsked_concat]
    rcases (hmem e).mp he with ⟨hold, hother⟩ | rfl
    · rw [h.weight e (Array.mem_toList_iff.mpr hold), if_neg (Ne.symm hother), Int.add_zero]
    · -- A pair without an edge was never asked for, and an edge that is there gains the weight.
      rw [hends, if_pos rfl, Graph.gained]
      cases hknown : g.edge? source target with
      | none =>
          rw [weightAsked_of_not_mem ((h.edge?_eq_none_iff hg source target).mp hknown),
            Int.zero_add]
          rfl
      | some e =>
          obtain ⟨he, hee⟩ := (hg.edge?_eq_some_iff source target e).mp hknown
          rw [← hee, ← h.weight e (Array.mem_toList_iff.mpr he)]
          rfl
  · intro ends
    rw [List.map_append, List.mem_append, List.map_singleton, List.mem_singleton, h.mem_iff]
    constructor
    · intro hin
      by_cases hlast : ends = (Path.normalize source, Path.normalize target)
      · exact ⟨_, (hmem _).mpr (Or.inr rfl), hends.trans hlast.symm⟩
      · obtain ⟨e, he, hee⟩ := hin.resolve_right hlast
        exact ⟨e, (hmem e).mpr (Or.inl ⟨Array.mem_toList_iff.mp he, hee ▸ hlast⟩), hee⟩
    · rintro ⟨e, he, rfl⟩
      rcases (hmem e).mp he with ⟨hold, -⟩ | rfl
      · exact Or.inl ⟨e, Array.mem_toList_iff.mpr hold, rfl⟩
      · exact Or.inr hends

end Sums

/-! ## Order -/

/-- A list with one more item mentions it first unless it was there. -/
theorem eraseDups_concat {β : Type} [BEq β] [LawfulBEq β] (mentioned : List β) (x : β) :
    (mentioned ++ [x]).eraseDups
      = mentioned.eraseDups ++ if x ∈ mentioned then [] else [x] := by
  rw [List.eraseDups_append, List.removeAll, List.filter_singleton]
  by_cases h : x ∈ mentioned
  · rw [if_pos h, List.elem_eq_true_of_mem h]
    rfl
  · rw [if_neg h, Bool.eq_false_iff.mpr (mt List.mem_of_elem_eq_true h)]
    rfl

/-- A changed item does not show in what it keeps. -/
theorem map_modify_of_kept {β γ : Type} {key : β → γ} {f : β → β} (h : ∀ x, key (f x) = key x)
    (i : Nat) (xs : List β) : (xs.modify i f).map key = xs.map key := by
  induction xs generalizing i with
  | nil => rw [List.modify_nil]
  | cons x rest ih =>
      cases i with
      | zero => rw [List.modify_zero_cons, List.map_cons, List.map_cons, h]
      | succ i => rw [List.modify_succ_cons, List.map_cons, List.map_cons, ih]

/-- The edges are in the order in which their ends were asked for first, and one more request keeps
    them so. -/
theorem Graph.WellFormed.order_addEdge [Label α] [Weight ω] {g : Graph α ω} (h : g.WellFormed)
    {asked : List (String × String)} (hasked : g.edges.toList.map Edge.ends = asked.eraseDups)
    {source target : String} (ha : g.accepts source target = true) (kind : α) (weight : ω) :
    (g.addEdge source target kind weight).edges.toList.map Edge.ends
      = (asked ++ [(Path.normalize source, Path.normalize target)]).eraseDups := by
  have hthere : (Path.normalize source, Path.normalize target) ∈ g.edgeIndex
      ↔ (Path.normalize source, Path.normalize target) ∈ asked := by
    rw [h.edgeIndex.mem_iff, ← List.mem_eraseDups, ← hasked, List.mem_map]
    exact exists_congr fun e => and_congr_left' Array.mem_toList_iff.symm
  rw [eraseDups_concat, ← hasked]
  rcases g.addEdge_cases source target kind weight with
    ⟨hno, -⟩ | ⟨-, hnew, heq⟩ | ⟨-, i, hi, heq⟩
  · exact absurd (ha.symm.trans hno) nofun
  · rw [heq, if_neg (mt hthere.mpr hnew), Array.toList_push, List.map_append]
    rfl
  · have hold : (Path.normalize source, Path.normalize target) ∈ g.edgeIndex :=
      Std.HashMap.mem_iff_isSome_getElem?.mpr (Option.isSome_of_eq_some hi)
    rw [heq, if_pos (hthere.mp hold), List.append_nil, Array.toList_modify]
    exact map_modify_of_kept (Edge.ends_raised weight) i _

/-! ## Kinds -/

/-- The kind of the first request for some ends. -/
def kindAsked? (asked : List ((String × String) × α)) (ends : String × String) : Option α :=
  (asked.find? (·.1 = ends)).map (·.2)

/-- The edges have the kinds of the first requests for their ends. -/
def FirstKinds (asked : List ((String × String) × α)) (edges : List (Edge α)) : Prop :=
  ∀ e ∈ edges, kindAsked? asked e.ends = some e.kind

/-- One more request, which has its way only if there was none for its ends. -/
theorem FirstKinds.addEdge [Label α] {kinds : List ((String × String) × α)}
    {asked : List ((String × String) × Int)} {g : Graph α} (h : FirstKinds kinds g.edges.toList)
    (hsums : Sums asked g.edges.toList) (hasked : kinds.map (·.1) = asked.map (·.1))
    (hg : g.WellFormed) {source target : String} (ha : g.accepts source target = true) (kind : α)
    (weight : Int) :
    FirstKinds (kinds ++ [((Path.normalize source, Path.normalize target), kind)])
      (g.addEdge source target kind weight).edges.toList := by
  intro e he
  rw [kindAsked?, List.find?_append]
  rcases (hg.mem_addEdge ha kind weight e).mp (Array.mem_toList_iff.mp he) with ⟨hold, -⟩ | rfl
  · obtain ⟨first, hfirst, hkind⟩ := Option.map_eq_some_iff.mp (h e (Array.mem_toList_iff.mpr hold))
    rw [hfirst, Option.some_or, Option.map_some, hkind]
  · rw [g.ends_gained hg, g.kind_gained]
    cases hknown : g.edge? source target with
    | none =>
        have hfree := (hsums.edge?_eq_none_iff hg source target).mp hknown
        rw [← hasked] at hfree
        have hnone : kinds.find? (·.1 = (Path.normalize source, Path.normalize target)) = none := by
          refine List.find?_eq_none.mpr fun a hin hends => hfree ?_
          exact List.mem_map.mpr ⟨a, hin, of_decide_eq_true hends⟩
        rw [hnone, Option.none_or, List.find?_singleton, if_pos (decide_eq_true rfl)]
        rfl
    | some known =>
        obtain ⟨hin, hends⟩ := (hg.edge?_eq_some_iff source target known).mp hknown
        obtain ⟨first, hfirst, hkind⟩ :=
          Option.map_eq_some_iff.mp (h known (Array.mem_toList_iff.mpr hin))
        rw [← hends, hfirst, Option.some_or, Option.map_some, hkind]
        rfl

/-! ## The tally -/

/-- The edges tally a list of pairs: the pairs are their ends, and a weight says how often. -/
structure Tallies (asked : List (String × String)) (edges : List (Edge α)) : Prop where
  weight : ∀ e ∈ edges, e.weight = asked.count e.ends
  mem_iff : ∀ ends, ends ∈ asked ↔ ∃ e ∈ edges, e.ends = ends

/-- A tally is a sum of ones. -/
theorem tallies_iff_sums {asked : List (String × String)} {edges : List (Edge α)} :
    Tallies asked edges ↔ Sums (asked.map (·, 1)) edges := by
  have hends : (asked.map (·, (1 : Int))).map (·.1) = asked := by
    rw [List.map_map]
    exact List.map_id asked
  constructor
  · intro h
    refine ⟨?_, ?_⟩
    · intro e he
      rw [weightAsked_ones, h.weight e he]
    · rw [hends]
      exact h.mem_iff
  · intro h
    refine ⟨?_, ?_⟩
    · intro e he
      rw [h.weight e he, weightAsked_ones]
    · rw [← hends]
      exact h.mem_iff

namespace Tallies

variable {asked : List (String × String)}

theorem nil : Tallies [] ([] : List (Edge α)) :=
  tallies_iff_sums.mpr .nil

/-- If no two edges have the same ends, their weights add up to the number of pairs. -/
theorem sum_weight {edges : List (Edge α)} (h : Tallies asked edges)
    (hnodup : (edges.map Edge.ends).Nodup) : (edges.map (·.weight)).sum = asked.length := by
  have hweights : edges.map (·.weight)
      = ((edges.map Edge.ends).map (asked.count ·)).map (Nat.cast : Nat → Int) := by
    rw [List.map_map, List.map_map]
    exact List.map_congr_left h.weight
  have hperm : (edges.map Edge.ends).Perm asked.dedup := by
    refine (List.perm_ext_iff_of_nodup hnodup asked.nodup_dedup).mpr fun ends => ?_
    rw [List.mem_map, List.mem_dedup]
    exact (h.mem_iff ends).symm
  -- The library counts with another test for equal pairs.
  have hcount : (asked.dedup.map (asked.count ·)).sum = asked.length := by
    convert List.sum_map_count_dedup_eq_length asked
    rfl
  calc (edges.map (·.weight)).sum
      = ((((edges.map Edge.ends).map (asked.count ·)).sum : Nat) : Int) := by
        rw [hweights, Nat.cast_list_sum]
    _ = (((asked.dedup.map (asked.count ·)).sum : Nat) : Int) := by
        rw [(hperm.map _).sum_eq]
    _ = asked.length := by
        rw [hcount]

/-- One more request: an edge of weight one is added. -/
theorem addEdge [Label α] {g : Graph α} (h : Tallies asked g.edges.toList) (hg : g.WellFormed)
    {source target : String} (ha : g.accepts source target = true) (kind : α) :
    Tallies (asked ++ [(Path.normalize source, Path.normalize target)])
      (g.addEdge source target kind).edges.toList := by
  rw [tallies_iff_sums, List.map_append]
  exact (tallies_iff_sums.mp h).addEdge hg ha kind 1

end Tallies

end SourceAtlas
