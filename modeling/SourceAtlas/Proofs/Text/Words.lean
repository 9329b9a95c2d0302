import SourceAtlas.Text.Word

/-! # Names that stand on their own

    `Text.mentions` tries a name at every place of a text.  `StandsIn` says what
    it looks for without walking through the text: the text has the name in it,
    and neither what is in front of it nor what follows continues a name
    (`mentions_iff`). -/

namespace SourceAtlas.Text

/-- What is next to a name, if anything is, does not continue it. -/
def IsApart (neighbour : Option Char) : Prop :=
  ∀ c ∈ neighbour, isNameChar c = false

/-- A text has a name in it as a whole word. -/
def StandsIn (name text : List Char) : Prop :=
  ∃ front back, text = front ++ name ++ back ∧ IsApart front.getLast? ∧ IsApart back.head?

theorem isApart_iff (neighbour : Option Char) :
    IsApart neighbour ↔ (!neighbour.any isNameChar) = true := by
  cases neighbour with
  | none => simp [IsApart]
  | some c => simp [IsApart]

variable {name : List Char}

/-- A name stands at the beginning of a text that follows a character. -/
theorem standsAt_iff {before : Option Char} {text : List Char} :
    standsAt name before text = true
      ↔ ∃ back, text = name ++ back ∧ IsApart before ∧ IsApart back.head? := by
  rw [standsAt, Bool.and_eq_true, Bool.and_eq_true, ← isApart_iff, ← isApart_iff,
    List.isPrefixOf_iff_prefix]
  constructor
  · rintro ⟨⟨hbefore, back, rfl⟩, hback⟩
    rw [List.drop_left] at hback
    exact ⟨back, rfl, hbefore, hback⟩
  · rintro ⟨back, rfl, hbefore, hback⟩
    rw [List.drop_left]
    exact ⟨⟨hbefore, List.prefix_append name back⟩, hback⟩

/-- The last character of a text that follows another one. -/
theorem getLast?_cons_or (c : Char) (front : List Char) (before : Option Char) :
    (c :: front).getLast?.or before = front.getLast?.or (some c) := by
  rw [List.getLast?_cons, Option.some_or]
  cases front.getLast? <;> rfl

/-- The search from a place on. What is in front of the name there may be the character before. -/
theorem mentionsAfter_iff {before : Option Char} {text : List Char} :
    mentionsAfter name before text = true
      ↔ ∃ front back, text = front ++ name ++ back
        ∧ IsApart (front.getLast?.or before) ∧ IsApart back.head? := by
  induction text generalizing before with
  | nil =>
      rw [mentionsAfter, standsAt_iff]
      constructor
      · rintro ⟨back, htext, hbefore, hback⟩
        exact ⟨[], back, htext, hbefore, hback⟩
      · rintro ⟨front, back, htext, hbefore, hback⟩
        obtain ⟨hfront, -⟩ := List.append_eq_nil_iff.mp htext.symm
        obtain ⟨rfl, -⟩ := List.append_eq_nil_iff.mp hfront
        exact ⟨back, htext, hbefore, hback⟩
  | cons c rest ih =>
      rw [mentionsAfter, Bool.or_eq_true, standsAt_iff, ih]
      constructor
      · rintro (⟨back, htext, hbefore, hback⟩ | ⟨front, back, rfl, hfront, hback⟩)
        · exact ⟨[], back, htext, hbefore, hback⟩
        · refine ⟨c :: front, back, rfl, ?_, hback⟩
          rw [getLast?_cons_or]
          exact hfront
      · rintro ⟨front, back, htext, hfront, hback⟩
        cases front with
        | nil => exact Or.inl ⟨back, htext, hfront, hback⟩
        | cons d front =>
            obtain ⟨rfl, rfl⟩ := List.cons.inj htext
            rw [getLast?_cons_or] at hfront
            exact Or.inr ⟨front, back, rfl, hfront, hback⟩

/-- **WHOLE WORDS**: the search finds a name exactly if it stands in the text. -/
theorem mentions_iff {text : List Char} : mentions text name = true ↔ StandsIn name text := by
  rw [mentions, mentionsAfter_iff]
  simp only [Option.or_none]
  rfl

/-! ## Texts that are words -/

theorem toNat_lt_of_isAlpha {c : Char} (h : c.isAlpha = true) : c.toNat < 128 := by
  rcases (Bool.or_eq_true _ _).mp h with hupper | hlower
  · have hbounds : 'A'.val ≤ c.val ∧ c.val ≤ 'Z'.val := of_decide_eq_true hupper
    exact Nat.lt_of_le_of_lt (UInt32.le_iff_toNat_le.mp hbounds.2) (by decide)
  · have hbounds : decide ('a'.val ≤ c.val) = true ∧ decide (c.val ≤ 'z'.val) = true :=
      (Bool.and_eq_true _ _).mp hlower
    exact Nat.lt_of_le_of_lt (UInt32.le_iff_toNat_le.mp (of_decide_eq_true hbounds.2)) (by decide)

/-- What a name may start with continues names as well. -/
theorem isNameChar_of_starts {c : Char} (h : (c.isAlpha = true ∨ c = '_') ∨ c = '$') :
    isNameChar c = true := by
  rcases h with (h | rfl) | rfl
  · have hascii := toNat_lt_of_isAlpha h
    simp only [isNameChar, isWord, hascii, if_true, Char.isAlphanum, h, Bool.true_or]
  · decide
  · decide

/-- Characters that continue a name are all of it, but for a line feed at its end. -/
theorem isNameChar_of_mem_identifier (hname : isIdentifier name = true) (hline : '\n' ∉ name) :
    ∀ c ∈ name, isNameChar c = true := by
  cases name with
  | nil => exact nomatch hname
  | cons c rest =>
      simp only [isIdentifier, Bool.and_eq_true, Bool.or_eq_true, decide_eq_true_eq] at hname
      obtain ⟨hc, hrest | ⟨hlast, -⟩⟩ := hname
      · intro d hd
        rcases List.mem_cons.mp hd with rfl | hd
        · exact isNameChar_of_starts hc
        · exact List.all_eq_true.mp hrest d hd
      · exact absurd (List.mem_cons_of_mem c (List.mem_of_getLast? hlast)) hline

/-- Nothing but itself stands in a word. -/
theorem eq_of_standsIn {word : List Char} (hword : ∀ c ∈ word, isNameChar c = true)
    (h : StandsIn name word) : name = word := by
  obtain ⟨front, back, rfl, hfront, hback⟩ := h
  have hnofront : front = [] := by
    refine List.getLast?_eq_none_iff.mp (Option.eq_none_iff_forall_ne_some.mpr fun c hc => ?_)
    have hmem : c ∈ front ++ name ++ back :=
      List.mem_append_left _ (List.mem_append_left _ (List.mem_of_getLast? hc))
    exact nomatch (hfront c hc).symm.trans (hword c hmem)
  have hnoback : back = [] := by
    refine List.head?_eq_none_iff.mp (Option.eq_none_iff_forall_ne_some.mpr fun c hc => ?_)
    have hmem : c ∈ front ++ name ++ back := List.mem_append_right _ (List.mem_of_head? hc)
    exact nomatch (hback c hc).symm.trans (hword c hmem)
  rw [hnofront, hnoback, List.nil_append, List.append_nil]

theorem standsIn_self (name : List Char) : StandsIn name name :=
  ⟨[], [], by simp, nofun, nofun⟩

end SourceAtlas.Text
