import SourceAtlas.Text.CodePoint

/-! # Texts in the order of their code points

    `Text.precedes` compares texts by the code points that their characters
    stand for.  No two characters stand for the same code point
    (`point_injective`), so it is a strict order in which any two different
    texts are comparable: `precedes_self`, `precedes_trans` and
    `precedes_trichotomy`.

    Without halves of surrogate pairs it is the usual order of texts
    (`precedes_iff_lt`).  The characters that stand for halves are out of their
    places in the usual order: they come before U+E000. -/

namespace SourceAtlas.Text

/-- No character is half of a surrogate pair. -/
theorem not_isHalf_toNat (c : Char) : isHalf c.toNat = false := by
  have hv : c.toNat < 0xD800 ∨ 0xDFFF < c.toNat ∧ c.toNat < 0x110000 := c.valid
  rw [isHalf, Bool.and_eq_false_iff, decide_eq_false_iff_not, decide_eq_false_iff_not]
  omega

/-- A character stands for the half at its distance, or for itself. -/
theorem point_cases (c : Char) :
    (isHalf (point c) = true ∧ c.toNat = point c + halfDistance)
    ∨ (isHalf (point c) = false ∧ c.toNat = point c) := by
  by_cases h : (decide (halfDistance ≤ c.toNat) && isHalf (c.toNat - halfDistance)) = true
  · have hp : point c = c.toNat - halfDistance := if_pos h
    obtain ⟨hle, hhalf⟩ := Bool.and_eq_true_iff.mp h
    refine Or.inl ⟨hp ▸ hhalf, ?_⟩
    rw [hp, Nat.sub_add_cancel (of_decide_eq_true hle)]
  · have hp : point c = c.toNat := if_neg h
    exact Or.inr ⟨hp ▸ not_isHalf_toNat c, hp.symm⟩

/-- No two characters stand for the same code point. -/
theorem point_injective {c d : Char} (h : point c = point d) : c = d := by
  apply Char.toNat_inj.mp
  -- A code point tells a half from the rest, so the mixed cases cannot be.
  rcases point_cases c with ⟨hc, hcn⟩ | ⟨hc, hcn⟩ <;>
    rcases point_cases d with ⟨hd, hdn⟩ | ⟨hd, hdn⟩
  · omega
  · rw [h, hd] at hc
    exact nomatch hc
  · rw [h, hd] at hc
    exact nomatch hc
  · omega

theorem point_of_not_isHalf {c : Char} (h : isHalf (point c) = false) : point c = c.toNat := by
  rcases point_cases c with ⟨hc, -⟩ | ⟨-, hc⟩
  · exact nomatch h.symm.trans hc
  · exact hc.symm

theorem precedes_cons {c d : Char} {cs ds : List Char} :
    precedes (c :: cs) (d :: ds) = true
      ↔ point c < point d ∨ (c = d ∧ precedes cs ds = true) := by
  simp [precedes]

theorem precedes_trans {cs ds es : List Char} (h1 : precedes cs ds = true)
    (h2 : precedes ds es = true) : precedes cs es = true := by
  induction cs generalizing ds es with
  | nil =>
      cases es with
      | nil => cases ds <;> exact h2
      | cons e es => rfl
  | cons c cs ih =>
      cases ds with
      | nil => exact nomatch h1
      | cons d ds =>
          cases es with
          | nil => exact nomatch h2
          | cons e es =>
              rw [precedes_cons] at h1 h2 ⊢
              rcases h1 with h1 | ⟨rfl, h1⟩
              · rcases h2 with h2 | ⟨rfl, -⟩
                · exact Or.inl (Nat.lt_trans h1 h2)
                · exact Or.inl h1
              · rcases h2 with h2 | ⟨rfl, h2⟩
                · exact Or.inl h2
                · exact Or.inr ⟨rfl, ih h1 h2⟩

/-- Of two different texts one precedes the other. -/
theorem precedes_trichotomy (cs ds : List Char) :
    precedes cs ds = true ∨ cs = ds ∨ precedes ds cs = true := by
  induction cs generalizing ds with
  | nil =>
      cases ds with
      | nil => exact Or.inr (Or.inl rfl)
      | cons d ds => exact Or.inl rfl
  | cons c cs ih =>
      cases ds with
      | nil => exact Or.inr (Or.inr rfl)
      | cons d ds =>
          rw [precedes_cons, precedes_cons]
          rcases Nat.lt_trichotomy (point c) (point d) with hlt | heq | hgt
          · exact Or.inl (Or.inl hlt)
          · have hcd : c = d := point_injective heq
            subst hcd
            rcases ih ds with h | rfl | h
            · exact Or.inl (Or.inr ⟨rfl, h⟩)
            · exact Or.inr (Or.inl rfl)
            · exact Or.inr (Or.inr (Or.inr ⟨rfl, h⟩))
          · exact Or.inr (Or.inr (Or.inl hgt))

/-- Texts of which neither precedes the other are the same. -/
theorem eq_of_not_precedes {cs ds : List Char} (h1 : precedes cs ds = false)
    (h2 : precedes ds cs = false) : cs = ds := by
  rcases precedes_trichotomy cs ds with h | h | h
  · rw [h1] at h
    exact nomatch h
  · exact h
  · rw [h2] at h
    exact nomatch h

/-! ## The usual order -/

/-- Where no character stands for a half, the order is that of the characters. -/
theorem precedes_iff_lt {cs ds : List Char} (hcs : ∀ c ∈ cs, isHalf (point c) = false)
    (hds : ∀ d ∈ ds, isHalf (point d) = false) : precedes cs ds = true ↔ cs < ds := by
  induction cs generalizing ds with
  | nil => cases ds <;> simp [precedes]
  | cons c cs ih =>
      cases ds with
      | nil => simp [precedes]
      | cons d ds =>
          obtain ⟨hc, hcs⟩ := List.forall_mem_cons.mp hcs
          obtain ⟨hd, hds⟩ := List.forall_mem_cons.mp hds
          rw [precedes_cons, List.cons_lt_cons_iff, ih hcs hds, point_of_not_isHalf hc,
            point_of_not_isHalf hd]
          rfl

/-- The same of whole texts. -/
theorem precedes_toList_iff_lt {s t : String} (hs : isWellFormed s = true)
    (ht : isWellFormed t = true) : precedes s.toList t.toList = true ↔ s < t := by
  rw [String.lt_iff]
  refine precedes_iff_lt (fun c hc => ?_) fun c hc => ?_
  · exact Bool.not_eq_true' _ ▸ List.all_eq_true.mp hs c hc
  · exact Bool.not_eq_true' _ ▸ List.all_eq_true.mp ht c hc

end SourceAtlas.Text
