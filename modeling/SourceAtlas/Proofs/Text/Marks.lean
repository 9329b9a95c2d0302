import Mathlib.Data.List.Infix
import SourceAtlas.Text.Cut

/-! # Finding marks

    A cut at the first occurrence of a mark succeeds exactly if there is one
    (`breakOn_eq_none_iff`), and it leaves as much behind it as a cut at any
    other occurrence (`breakOn_append`).  A cut at the last occurrence of a
    character is the one that leaves nothing of it behind
    (`splitLast_eq_some_iff`).  A cut at all of them can be made at any one first
    (`splitAll_append`).

    A character that is not in a mark keeps its occurrences apart: each of them
    lies on one side of that character (`occurs_beside`).  So what has no
    character of the mark in it does not matter in front of a text or behind it
    (`occurs_behind`, `occurs_before`), and it stays behind whatever is taken
    from behind the last occurrence (`afterLast_append`). -/

namespace SourceAtlas.Text

variable {mark : List Char}

/-! ## Cuts -/

/-- The cut at the first occurrence of a mark leaves behind it what stands behind any of them. -/
theorem breakOn_append (mark before after : List Char) :
    ∃ first rest, breakOn mark (before ++ mark ++ after) = some (first, rest)
      ∧ first.length ≤ before.length ∧ after <:+ rest := by
  induction before with
  | nil =>
      rw [List.nil_append]
      cases hcs : mark ++ after with
      | nil =>
          obtain ⟨rfl, rfl⟩ := List.append_eq_nil_iff.mp hcs
          exact ⟨[], [], rfl, le_rfl, List.suffix_rfl⟩
      | cons c cs =>
          have hprefix : mark.isPrefixOf (c :: cs) = true :=
            List.isPrefixOf_iff_prefix.mpr ⟨after, hcs⟩
          refine ⟨[], (c :: cs).drop mark.length, ?_, le_rfl, ?_⟩
          · rw [breakOn, if_pos hprefix]
          · rw [← hcs, List.drop_left]
  | cons c before ih =>
      obtain ⟨first, rest, hbreak, hlength, hafter⟩ := ih
      rw [List.cons_append, List.cons_append, breakOn]
      split
      · refine ⟨[], _, rfl, Nat.zero_le _, ?_⟩
        -- The first occurrence may overlap with the other one, but it ends no later.
        have hshort : mark.length ≤ (c :: (before ++ mark)).length := by
          rw [List.length_cons, List.length_append]
          omega
        rw [← List.cons_append, List.drop_append_of_le_length hshort]
        exact List.suffix_append ..
      · rw [hbreak]
        exact ⟨c :: first, rest, rfl, Nat.succ_le_succ hlength, hafter⟩

/-- A text can be cut exactly where it has the mark in it. -/
theorem breakOn_eq_none_iff {cs : List Char} : breakOn mark cs = none ↔ ¬ mark <:+: cs := by
  constructor
  · rintro hnone ⟨before, after, rfl⟩
    obtain ⟨first, rest, hbreak, -⟩ := breakOn_append mark before after
    exact nomatch hnone.symm.trans hbreak
  · intro hfree
    cases hbreak : breakOn mark cs with
    | none => rfl
    | some parts => exact absurd ⟨parts.1, parts.2, (breakOn_eq_some hbreak).symm⟩ hfree

/-- The first occurrence of a mark whose first character does not stand in front of it. -/
theorem breakOn_behind {first : Char} {mark front : List Char} (h : first ∉ front)
    (back : List Char) :
    breakOn (first :: mark) (front ++ (first :: mark) ++ back) = some (front, back) := by
  induction front with
  | nil =>
      have hprefix : (first :: mark).isPrefixOf ((first :: mark) ++ back) = true :=
        List.isPrefixOf_iff_prefix.mpr (List.prefix_append ..)
      rw [List.nil_append, List.cons_append, breakOn, ← List.cons_append, if_pos hprefix,
        List.drop_left]
  | cons c front ih =>
      rw [List.mem_cons, not_or] at h
      obtain ⟨hc, hfront⟩ := h
      have hprefix : ¬ (first :: mark).isPrefixOf (c :: (front ++ (first :: mark) ++ back)) := by
        rw [List.isPrefixOf_iff_prefix, List.cons_prefix_cons]
        exact fun hstart => hc hstart.1
      rw [List.cons_append, List.cons_append, breakOn, if_neg hprefix, ih hfront]
      rfl

/-- There is no cut at a character that does not occur. -/
theorem splitLast_eq_none_iff {c : Char} {cs : List Char} : splitLast c cs = none ↔ c ∉ cs := by
  induction cs with
  | nil => exact iff_of_true rfl List.not_mem_nil
  | cons d rest ih =>
      rw [splitLast, List.mem_cons, not_or, ← ih, eq_comm (a := c)]
      cases splitLast c rest with
      | none => simp
      | some parts => simp

/-- The cut at the last occurrence of a character leaves none of it behind. -/
theorem splitLast_append {c : Char} {after : List Char} (h : c ∉ after) (before : List Char) :
    splitLast c (before ++ c :: after) = some (before, after) := by
  induction before with
  | nil => rw [List.nil_append, splitLast, splitLast_eq_none_iff.mpr h, if_pos rfl]
  | cons b before ih => rw [List.cons_append, splitLast, ih]

/-- Nothing but the cut at the last occurrence leaves none of the character behind. -/
theorem splitLast_eq_some_iff {c : Char} {cs before after : List Char} :
    splitLast c cs = some (before, after) ↔ cs = before ++ c :: after ∧ c ∉ after := by
  constructor
  · intro h
    refine ⟨splitLast_eq_some h, ?_⟩
    induction cs generalizing before with
    | nil => exact nomatch h
    | cons d rest ih =>
        rw [splitLast] at h
        cases hrest : splitLast c rest with
        | none =>
            rw [hrest] at h
            obtain ⟨-, hparts⟩ := Option.ite_none_right_eq_some.mp h
            obtain ⟨-, rfl⟩ := Prod.mk.inj (Option.some.inj hparts)
            exact splitLast_eq_none_iff.mp hrest
        | some parts =>
            rw [hrest] at h
            obtain ⟨-, rfl⟩ := Prod.mk.inj (Option.some.inj h)
            exact ih hrest
  · rintro ⟨rfl, h⟩
    exact splitLast_append h before

/-! ## Pieces -/

section Pieces

variable {isMark : Char → Bool}

theorem splitAll_ne_nil (cs : List Char) : splitAll isMark cs ≠ [] := by
  cases cs with
  | nil => exact nofun
  | cons c rest =>
      rw [splitAll]
      split
      · exact nofun
      · split <;> exact nofun

/-- A mark ends a piece, and the next one begins behind it. -/
theorem splitAll_append {mark : Char} (hmark : isMark mark = true) (front back : List Char) :
    splitAll isMark (front ++ mark :: back) = splitAll isMark front ++ splitAll isMark back := by
  induction front with
  | nil =>
      rw [List.nil_append]
      exact if_pos hmark
  | cons c front ih =>
      rw [List.cons_append, splitAll, splitAll, ih]
      by_cases hc : isMark c = true
      · rw [if_pos hc, if_pos hc, List.cons_append]
      · rw [if_neg hc, if_neg hc]
        cases hfront : splitAll isMark front with
        | nil => exact absurd hfront (splitAll_ne_nil front)
        | cons piece pieces => rfl

/-- Without a mark there is one piece. -/
theorem splitAll_of_avoids {cs : List Char} (h : ∀ c ∈ cs, isMark c = false) :
    splitAll isMark cs = [cs] := by
  induction cs with
  | nil => rfl
  | cons c rest ih =>
      obtain ⟨hc, hrest⟩ := List.forall_mem_cons.mp h
      rw [splitAll, if_neg (ne_true_of_eq_false hc), ih hrest]

end Pieces

/-! ## What follows the last occurrence -/

theorem afterLast?_of_avoids (hmark : mark ≠ []) {cs : List Char} (h : ∀ c ∈ cs, c ∉ mark) :
    afterLast? mark cs = none := by
  induction cs with
  | nil => rfl
  | cons c rest ih =>
      obtain ⟨hc, hrest⟩ := List.forall_mem_cons.mp h
      rw [afterLast?, ih hrest]
      refine if_neg fun hstart => ?_
      obtain ⟨after, hafter⟩ := List.isPrefixOf_iff_prefix.mp hstart
      cases mark with
      | nil => exact hmark rfl
      | cons m ms =>
          rw [List.cons_append] at hafter
          exact hc ((List.cons.inj hafter).1 ▸ List.mem_cons_self ..)

theorem afterLast?_append (hmark : mark ≠ []) {back : List Char} (hback : ∀ c ∈ back, c ∉ mark)
    (cs : List Char) :
    afterLast? mark (cs ++ back) = (afterLast? mark cs).map (· ++ back) := by
  induction cs with
  | nil => exact afterLast?_of_avoids hmark hback
  | cons c rest ih =>
      -- A mark that starts in front of the back ends there, too.
      have hstart : mark.isPrefixOf (c :: (rest ++ back)) = mark.isPrefixOf (c :: rest) := by
        rw [Bool.eq_iff_iff, List.isPrefixOf_iff_prefix, List.isPrefixOf_iff_prefix]
        refine ⟨fun h => ?_, fun h => h.trans ⟨back, rfl⟩⟩
        have hfront : c :: rest <+: c :: (rest ++ back) := ⟨back, rfl⟩
        rcases List.prefix_or_prefix_of_prefix h hfront with h' | ⟨gap, rfl⟩
        · exact h'
        · cases gap with
          | nil => exact ⟨[], by rw [List.append_nil, List.append_nil]⟩
          | cons d gap =>
              obtain ⟨after, hafter⟩ := h
              rw [← List.cons_append, List.append_assoc] at hafter
              have hd := List.append_cancel_left hafter
              refine absurd (List.mem_append_right _ (List.mem_cons_self ..)) (hback d ?_)
              rw [← hd]
              exact List.mem_cons_self ..
      rw [List.cons_append, afterLast?, ih, hstart, afterLast?]
      cases afterLast? mark rest with
      | some after => rfl
      | none =>
          by_cases h : mark.isPrefixOf (c :: rest) = true
          · have hlength := (List.isPrefixOf_iff_prefix.mp h).length_le
            rw [Option.map_none, if_pos h, if_pos h, Option.map_some, ← List.cons_append,
              List.drop_append_of_le_length hlength]
          · rw [Option.map_none, if_neg h, if_neg h]
            rfl

theorem afterLast_of_avoids (hmark : mark ≠ []) {cs : List Char} (h : ∀ c ∈ cs, c ∉ mark) :
    afterLast mark cs = cs := by
  rw [afterLast, afterLast?_of_avoids hmark h, Option.getD_none]

/-- What has no character of a mark in it stays behind what follows the last occurrence. -/
theorem afterLast_append (hmark : mark ≠ []) {back : List Char} (hback : ∀ c ∈ back, c ∉ mark)
    (cs : List Char) : afterLast mark (cs ++ back) = afterLast mark cs ++ back := by
  rw [afterLast, afterLast?_append hmark hback, afterLast]
  cases afterLast? mark cs with
  | some after => rfl
  | none => rfl

/-- Behind the last occurrence of a single character stands what a cut leaves behind it. -/
theorem afterLast?_singleton (c : Char) (cs : List Char) :
    afterLast? [c] cs = (splitLast c cs).map Prod.snd := by
  induction cs with
  | nil => rfl
  | cons d rest ih =>
      rw [afterLast?, ih, splitLast]
      cases splitLast c rest with
      | some parts => rfl
      | none =>
          by_cases hd : d = c
          · subst hd
            simp
          · have hstart : ¬ [c].isPrefixOf (d :: rest) = true := by
              simpa using fun hcd : c = d => hd hcd.symm
            rw [Option.map_none, if_neg hstart, if_neg hd]
            rfl

theorem afterLast_singleton {c : Char} {back : List Char} (hback : c ∉ back) (front : List Char) :
    afterLast [c] (front ++ c :: back) = back := by
  rw [afterLast, afterLast?_singleton, splitLast_append hback]
  rfl

/-! ## Occurrences -/

/-- An occurrence of a mark around a character that is not in it lies on one side of it. -/
theorem occurs_beside {c : Char} (hc : c ∉ mark) {cs ds before after : List Char}
    (h : cs ++ c :: ds = before ++ mark ++ after) :
    (∃ rest, cs = before ++ mark ++ rest ∧ after = rest ++ c :: ds)
    ∨ ∃ rest, before = cs ++ c :: rest ∧ ds = rest ++ mark ++ after := by
  rcases List.append_eq_append_iff.mp h with ⟨inner, hinner, htail⟩ | ⟨rest, hcs, hafter⟩
  · cases inner with
    | nil =>
        rw [List.append_nil] at hinner
        refine Or.inl ⟨[], ?_, htail.symm⟩
        rw [hinner, List.append_nil]
    | cons d inner =>
        obtain ⟨rfl, rfl⟩ := List.cons.inj htail
        -- The mark does not cover the character, so it starts behind it.
        rcases List.append_eq_append_iff.mp hinner with ⟨rest, -, hcover⟩ | ⟨rest, hbefore, hrest⟩
        · refine absurd ?_ hc
          rw [hcover]
          exact List.mem_append_right _ (List.mem_cons_self ..)
        · cases rest with
          | nil =>
              rw [List.nil_append] at hrest
              exact absurd (hrest ▸ List.mem_cons_self ..) hc
          | cons d rest =>
              obtain ⟨rfl, rfl⟩ := List.cons.inj hrest
              exact Or.inr ⟨rest, hbefore, rfl⟩
  · exact Or.inl ⟨rest, hcs, hafter⟩

/-- Without a character of the mark, a front has no part in an occurrence. -/
theorem occurs_behind {front cs before after : List Char} (hmark : mark ≠ [])
    (hfront : ∀ c ∈ front, c ∉ mark) (h : front ++ cs = before ++ mark ++ after) :
    ∃ rest, before = front ++ rest ∧ cs = rest ++ mark ++ after := by
  induction front generalizing before with
  | nil => exact ⟨before, rfl, h⟩
  | cons c front ih =>
      have hsplit : [] ++ c :: (front ++ cs) = before ++ mark ++ after := h
      rcases occurs_beside (hfront c (List.mem_cons_self ..)) hsplit with
        ⟨rest, hnil, -⟩ | ⟨rest, hbefore, hrest⟩
      · obtain ⟨hnil, -⟩ := List.append_eq_nil_iff.mp hnil.symm
        exact absurd (List.append_eq_nil_iff.mp hnil).2 hmark
      · obtain ⟨rest', hrest', hcs⟩ :=
          ih (fun d hd => hfront d (List.mem_cons_of_mem _ hd)) hrest
        refine ⟨rest', ?_, hcs⟩
        rw [hbefore, hrest']
        rfl

/-- Without a character of the mark, a back has no part in an occurrence. -/
theorem occurs_before {back cs before after : List Char} (hmark : mark ≠ [])
    (hback : ∀ c ∈ back, c ∉ mark) (h : cs ++ back = before ++ mark ++ after) :
    ∃ rest, after = rest ++ back ∧ cs = before ++ mark ++ rest := by
  cases back with
  | nil =>
      rw [List.append_nil] at h
      exact ⟨after, (List.append_nil _).symm, h⟩
  | cons c back =>
      rcases occurs_beside (hback c (List.mem_cons_self ..)) h with
        ⟨rest, hcs, hafter⟩ | ⟨rest, -, hrest⟩
      · exact ⟨rest, hafter, hcs⟩
      · -- The occurrence would lie in the back.
        obtain ⟨d, hd⟩ := List.exists_mem_of_ne_nil mark hmark
        refine absurd hd (hback d (List.mem_cons_of_mem _ ?_))
        rw [hrest]
        exact List.mem_append_left _ (List.mem_append_right _ hd)

end SourceAtlas.Text
