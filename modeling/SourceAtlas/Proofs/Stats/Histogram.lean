import Mathlib.Algebra.BigOperators.Ring.Finset
import SourceAtlas.Stats.Basic

/-! # Histograms of tags

    A histogram is built by counting one tag after the other into a table whose
    tags are in increasing order.  `Tabulates` is what such a table says about the
    tags that were counted, and `Tabulates.countTag` the step that keeps it.  A
    table is determined by that up to the order of the tags
    (`Tabulates.eq_of_perm`), since tables with increasing tags are equal as soon
    as the same is found in them (`eq_of_lookup`). -/

namespace SourceAtlas.ProjectStats

/-! ## Tables with increasing tags -/

variable {β : Type} {rows others : List (String × β)} {tag name : String}

theorem lookup_cons_eq (p : String × β) (rows : List (String × β)) (name : String) :
    (p :: rows).lookup name = if name = p.1 then some p.2 else rows.lookup name := by
  rw [List.lookup_cons]
  by_cases h : name = p.1
  · rw [if_pos h, beq_iff_eq.mpr h]
  · rw [if_neg h, beq_eq_false_iff_ne.mpr h]

theorem lookup_map {γ : Type} (f : β → γ) (rows : List (String × β)) (name : String) :
    (rows.map fun p => (p.1, f p.2)).lookup name = (rows.lookup name).map f := by
  induction rows with
  | nil => rfl
  | cons p rest ih =>
      rw [List.map_cons, lookup_cons_eq, lookup_cons_eq, ih]
      split <;> rfl

/-- Nothing is found in front of the first tag. -/
theorem lookup_eq_none_of_lt (h : ∀ p ∈ rows, name < p.1) : rows.lookup name = none := by
  refine List.lookup_eq_none_iff.mpr fun p hp => bne_iff_ne.mpr fun heq => ?_
  exact String.lt_irrefl name (heq ▸ h p hp)

theorem forall_lt_of_lt {p : String × β} (h : (p :: rows).Pairwise (·.1 < ·.1))
    (hlt : name < p.1) : ∀ q ∈ p :: rows, name < q.1 :=
  List.forall_mem_cons.mpr
    ⟨hlt, fun q hq => String.lt_trans hlt ((List.pairwise_cons.mp h).1 q hq)⟩

/-- Tables with increasing tags in which the same is found are equal. -/
theorem eq_of_lookup (hrows : rows.Pairwise (·.1 < ·.1)) (hothers : others.Pairwise (·.1 < ·.1))
    (h : ∀ name, rows.lookup name = others.lookup name) : rows = others := by
  induction rows generalizing others with
  | nil =>
      cases others with
      | nil => rfl
      | cons q more =>
          have hq := h q.1
          rw [List.lookup_cons_self] at hq
          exact nomatch hq
  | cons p rest ih =>
      cases others with
      | nil =>
          have hp := h p.1
          rw [List.lookup_cons_self] at hp
          exact nomatch hp
      | cons q more =>
          -- The first tag of either table is found in the other one, so none comes before it.
          have hqp : ¬ p.1 < q.1 := by
            intro hlt
            have hp := h p.1
            rw [List.lookup_cons_self, lookup_eq_none_of_lt (forall_lt_of_lt hothers hlt)] at hp
            exact nomatch hp
          have hpq : ¬ q.1 < p.1 := by
            intro hlt
            have hq := h q.1
            rw [List.lookup_cons_self, lookup_eq_none_of_lt (forall_lt_of_lt hrows hlt)] at hq
            exact nomatch hq
          have htag : p.1 = q.1 := String.le_antisymm hpq hqp
          have hcount : p.2 = q.2 := by
            have hp := h p.1
            rw [List.lookup_cons_self, htag, List.lookup_cons_self] at hp
            exact Option.some.inj hp
          obtain ⟨hfirst, hrest⟩ := List.pairwise_cons.mp hrows
          obtain ⟨hfirst', hmore⟩ := List.pairwise_cons.mp hothers
          rw [Prod.ext htag hcount, ih hrest hmore fun name => ?_]
          by_cases hname : name = p.1
          · rw [hname, lookup_eq_none_of_lt hfirst, htag, lookup_eq_none_of_lt hfirst']
          · have hfound := h name
            rwa [lookup_cons_eq, lookup_cons_eq, if_neg hname, if_neg (htag ▸ hname)] at hfound

/-! ## Counting -/

variable {rows : List (String × Nat)}

/-- A counted tag is there, and the other ones stay. -/
theorem fst_mem_countTag {p : String × Nat} (h : p ∈ countTag tag rows) :
    p.1 = tag ∨ ∃ q ∈ rows, q.1 = p.1 := by
  fun_induction countTag tag rows with
  | case1 => exact Or.inl (congrArg Prod.fst (List.mem_singleton.mp h))
  | case2 n rest =>
      rcases List.mem_cons.mp h with rfl | h
      · exact Or.inl rfl
      · exact Or.inr ⟨p, List.mem_cons_of_mem _ h, rfl⟩
  | case3 t n rest _ _ =>
      rcases List.mem_cons.mp h with rfl | h
      · exact Or.inl rfl
      · exact Or.inr ⟨p, h, rfl⟩
  | case4 t n rest _ _ ih =>
      rcases List.mem_cons.mp h with rfl | h
      · exact Or.inr ⟨_, List.mem_cons_self .., rfl⟩
      · exact (ih h).imp_right fun ⟨q, hq, heq⟩ => ⟨q, List.mem_cons_of_mem _ hq, heq⟩

/-- Tags stay in increasing order. -/
theorem pairwise_countTag (h : rows.Pairwise (·.1 < ·.1)) :
    (countTag tag rows).Pairwise (·.1 < ·.1) := by
  fun_induction countTag tag rows with
  | case1 => exact List.pairwise_singleton ..
  | case2 n rest => exact List.pairwise_cons.mpr (List.pairwise_cons.mp h)
  | case3 t n rest _ hlt =>
      refine List.pairwise_cons.mpr ⟨?_, h⟩
      rintro p hp
      rcases List.mem_cons.mp hp with rfl | hp
      · exact hlt
      · exact String.lt_trans hlt ((List.pairwise_cons.mp h).1 p hp)
  | case4 t n rest hne hnot ih =>
      obtain ⟨hfirst, hrest⟩ := List.pairwise_cons.mp h
      refine List.pairwise_cons.mpr ⟨fun p hp => ?_, ih hrest⟩
      rcases fst_mem_countTag hp with heq | ⟨q, hq, heq⟩
      · rw [heq]
        exact Std.lt_of_le_of_ne hnot (Ne.symm hne)
      · rw [← heq]
        exact hfirst q hq

/-- A counted tag counts one more, and every other tag as before. -/
theorem lookup_countTag (h : rows.Pairwise (·.1 < ·.1)) (tag name : String) :
    (countTag tag rows).lookup name
      = if name = tag then some ((rows.lookup tag).getD 0 + 1) else rows.lookup name := by
  fun_induction ProjectStats.countTag tag rows with
  | case1 => exact lookup_cons_eq ..
  | case2 n rest =>
      rw [List.lookup_cons_self, lookup_cons_eq, lookup_cons_eq]
      by_cases hname : name = tag
      · rw [if_pos hname, if_pos hname]
        rfl
      · rw [if_neg hname, if_neg hname, if_neg hname]
  | case3 t n rest _ hlt =>
      rw [lookup_cons_eq, lookup_eq_none_of_lt (forall_lt_of_lt h hlt)]
      rfl
  | case4 t n rest hne _ ih =>
      rw [lookup_cons_eq, ih (List.pairwise_cons.mp h).2, lookup_cons_eq, lookup_cons_eq,
        if_neg hne]
      by_cases hname : name = t
      · rw [if_pos hname, if_pos hname, if_neg fun htag => hne (htag.symm.trans hname)]
      · rw [if_neg hname, if_neg hname]

theorem sum_countTag (tag : String) (rows : List (String × Nat)) :
    ((countTag tag rows).map (·.2)).sum = (rows.map (·.2)).sum + 1 := by
  fun_induction countTag tag rows with
  | case1 => rfl
  | case2 n rest => simp [Nat.add_right_comm]
  | case3 t n rest _ _ => simp [Nat.add_comm]
  | case4 t n rest _ _ ih => simp [ih, Nat.add_assoc]

/-- A table says which tags were counted, in increasing order, and how often. -/
structure Tabulates (rows : List (String × Nat)) (tags : List String) : Prop where
  increasing : rows.Pairwise (·.1 < ·.1)
  lookup : ∀ tag, rows.lookup tag = if tag ∈ tags then some (tags.count tag) else none
  sum : (rows.map (·.2)).sum = tags.length

namespace Tabulates

variable {tags : List String}

theorem nil : Tabulates [] [] :=
  ⟨.nil, fun _ => rfl, rfl⟩

/-- One more tag is counted. -/
theorem countTag (h : Tabulates rows tags) (tag : String) :
    Tabulates (countTag tag rows) (tags ++ [tag]) where
  increasing := pairwise_countTag h.increasing
  lookup name := by
    rw [lookup_countTag h.increasing, h.lookup, h.lookup]
    by_cases hname : name = tag
    · rw [if_pos hname, if_pos (List.mem_append_right _ (List.mem_singleton.mpr hname)), hname,
        List.count_append, List.count_singleton_self]
      by_cases hmem : tag ∈ tags
      · rw [if_pos hmem]
        rfl
      · rw [if_neg hmem, List.count_eq_zero_of_not_mem hmem]
        rfl
    · have hmem : name ∈ tags ++ [tag] ↔ name ∈ tags := by
        rw [List.mem_append, List.mem_singleton, or_iff_left hname]
      rw [if_neg hname, List.count_append,
        List.count_eq_zero_of_not_mem (fun h => hname (List.mem_singleton.mp h)), Nat.add_zero]
      simp only [hmem]
  sum := by rw [sum_countTag, h.sum, List.length_append, List.length_singleton]

/-- Tables of the same tags in any order are equal. -/
theorem eq_of_perm {others : List (String × Nat)} {tags' : List String} (h : Tabulates rows tags)
    (h' : Tabulates others tags') (hperm : tags.Perm tags') : rows = others := by
  refine eq_of_lookup h.increasing h'.increasing fun name => ?_
  rw [h.lookup, h'.lookup, hperm.count_eq]
  simp only [hperm.mem_iff]

end Tabulates

/-- **HISTOGRAMS**: the histogram of a batch counts the tags of its files. -/
theorem tabulates_histogram {ν : Type} [Figure ν] (outlines : List (Outline ν)) :
    Tabulates (histogram outlines) (outlines.map (·.language.tag)) := by
  induction outlines using List.reverseRecOn with
  | nil => exact Tabulates.nil
  | append_singleton front o ih =>
      rw [histogram, List.foldl_append, List.map_append]
      exact ih.countTag _

end SourceAtlas.ProjectStats
