import SourceAtlas.Text.Case

/-! # A text in small letters has no capitals left

    No small letter in the table of letters is a capital of it
    (`caseRuns_avoid`), so every character of a text in small letters is its own
    small form (`isSmall_of_mem_lowerAfter`).  Hence writing a text in small
    letters a second time changes nothing (`lower_lower`).

    All small letters stand behind the punctuation of ASCII, so a mark of
    punctuation stands in the text in small letters exactly where it stands in
    the text (`mem_lowerAfter_iff`, `exists_of_lowerAfter_eq_cons`). -/

namespace SourceAtlas.Text

/-! ## The table -/

/-- No small letter of the first run is a capital of the second one: the runs stand apart, or only
    every other code point in between is a capital. -/
def CaseRun.avoids (r q : CaseRun) : Bool :=
  Nat.blt (r.small + (r.last - r.first)) q.first || Nat.blt q.last r.small
    || (q.step = 2 && (r.step = 2 || r.first = r.last) && (r.small + q.first) % 2 = 1)

theorem CaseRun.small?_eq_none_of_avoids {r q : CaseRun} (h : r.avoids q = true) {n m : Nat}
    (hm : r.small? n = some m) : q.small? m = none := by
  rw [CaseRun.small?] at hm
  split at hm
  · next hn =>
      obtain ⟨hfirst, hlast, hstep⟩ := hn
      obtain rfl := Option.some.inj hm
      rw [CaseRun.small?, if_neg]
      rintro ⟨hqfirst, hqlast, hqstep⟩
      simp only [avoids, Bool.or_eq_true, Bool.and_eq_true, decide_eq_true_eq, Nat.blt_eq] at h
      rcases h with (hbefore | hbehind) | ⟨⟨hq, hr | hr⟩, hparity⟩
      · omega
      · omega
      · rw [hr] at hstep
        rw [hq] at hqstep
        omega
      · rw [hq] at hqstep
        omega
  · exact nomatch hm

/-- The dotted capital I, which is in no run. -/
def dottedCapital : CaseRun := ⟨0x130, 0x130, 1, 0x69⟩

theorem caseRuns_avoid :
    (caseRuns.all fun r => (dottedCapital :: caseRuns).all r.avoids) = true := by
  decide +kernel

/-! ## Small letters -/

/-- The code point is no capital. -/
def NoCapital (n : Nat) : Prop := ∀ q ∈ dottedCapital :: caseRuns, q.small? n = none

-- One pass over the table, which stays shallow however long the table is.
instance : DecidablePred NoCapital := fun n =>
  decidable_of_iff (((dottedCapital :: caseRuns).all fun q => (q.small? n).isNone) = true)
    (by simp only [NoCapital, List.all_eq_true, Option.isNone_iff_eq_none])

/-- The character is its own small form. -/
def IsSmall (c : Char) : Prop := lowerChar c = [c] ∧ c.toNat ≠ 0x3A3

instance : DecidablePred IsSmall := fun c =>
  inferInstanceAs (Decidable (lowerChar c = [c] ∧ c.toNat ≠ 0x3A3))

/-- In ASCII, small letters are told by arithmetic. -/
theorem isSmall_toLower {c : Char} (h : c.toNat < 128) : IsSmall c.toLower := by
  have hall : ∀ n < 128, IsSmall (Char.ofNat n).toLower := by decide +kernel
  have hc := hall c.toNat h
  rwa [Char.ofNat_toNat] at hc

theorem isSmall_of_noCapital {c : Char} (h : NoCapital c.toNat) : IsSmall c := by
  obtain ⟨hdotted, hruns⟩ := List.forall_mem_cons.mp h
  have hnone : caseRuns.findSome? (·.small? c.toNat) = none := List.findSome?_eq_none_iff.mpr hruns
  refine ⟨?_, fun hsigma => ?_⟩
  · rw [lowerChar]
    by_cases hascii : c.toNat < 128
    · -- The capitals of ASCII are a run of their own, the first one.
      have hrun : CaseRun.small? ⟨0x41, 0x5A, 1, 0x61⟩ c.toNat = none :=
        hruns _ (List.mem_cons_self ..)
      have hall : ∀ n < 128, CaseRun.small? ⟨0x41, 0x5A, 1, 0x61⟩ n = none →
          (Char.ofNat n).toLower = Char.ofNat n := by decide +kernel
      have hc := hall c.toNat hascii hrun
      rw [Char.ofNat_toNat] at hc
      rw [if_pos hascii, hc]
    · rw [if_neg hascii, if_neg, hnone]
      intro hc
      rw [hc] at hdotted
      exact absurd hdotted (by decide)
  · rw [hsigma] at hnone
    exact absurd hnone (by decide)

theorem isSmall_ofNat {n : Nat} (h : NoCapital n) : IsSmall (Char.ofNat n) := by
  by_cases hvalid : n.isValidChar
  · refine isSmall_of_noCapital ?_
    rw [Char.ofNat, dif_pos hvalid]
    exact h
  · rw [Char.ofNat, dif_neg hvalid]
    decide

theorem noCapital_of_small? {r : CaseRun} (hr : r ∈ caseRuns) {n m : Nat}
    (h : r.small? n = some m) : NoCapital m := fun q hq =>
  CaseRun.small?_eq_none_of_avoids
    (List.all_eq_true.mp (List.all_eq_true.mp caseRuns_avoid r hr) q hq) h

theorem isSmall_of_mem_lowerChar {c d : Char} (h : d ∈ lowerChar c) : IsSmall d := by
  rw [lowerChar] at h
  split at h
  · next hascii =>
      rw [List.mem_singleton.mp h]
      exact isSmall_toLower hascii
  · split at h
    · rw [List.mem_cons, List.mem_singleton] at h
      obtain rfl | rfl := h
      · exact isSmall_toLower (c := 'i') (by decide)
      · exact isSmall_ofNat (by decide +kernel)
    · next hdotted =>
        split at h
        · next small hsmall =>
            obtain ⟨r, hr, hsmall⟩ := List.exists_of_findSome?_eq_some hsmall
            rw [List.mem_singleton.mp h]
            exact isSmall_ofNat (noCapital_of_small? hr hsmall)
        · next hnone =>
            rw [List.mem_singleton.mp h]
            refine isSmall_of_noCapital
              (List.forall_mem_cons.mpr ⟨?_, List.findSome?_eq_none_iff.mp hnone⟩)
            rw [dottedCapital, CaseRun.small?, if_neg]
            rintro ⟨hfirst, hlast, -⟩
            exact hdotted (Nat.le_antisymm hlast hfirst)

/-! ## Texts -/

theorem isSmall_of_mem_lowerAfter {before cs : List Char} {d : Char}
    (h : d ∈ lowerAfter before cs) : IsSmall d := by
  induction cs generalizing before with
  | nil => exact nomatch h
  | cons c rest ih =>
      rw [lowerAfter, List.mem_append] at h
      rcases h with h | h
      · split at h
        · rw [List.mem_singleton.mp h]
          split <;> exact isSmall_ofNat (by decide +kernel)
        · exact isSmall_of_mem_lowerChar h
      · exact ih h

theorem lowerAfter_of_isSmall {cs : List Char} (h : ∀ c ∈ cs, IsSmall c) (before : List Char) :
    lowerAfter before cs = cs := by
  induction cs generalizing before with
  | nil => rfl
  | cons c rest ih =>
      obtain ⟨⟨hc, hsigma⟩, hrest⟩ := List.forall_mem_cons.mp h
      rw [lowerAfter, if_neg hsigma, hc, ih hrest, List.singleton_append]

/-- A text in small letters stays as it is. -/
@[simp] theorem lower_lower (cs : List Char) : lower (lower cs) = lower cs :=
  lowerAfter_of_isSmall (fun _ hc => isSmall_of_mem_lowerAfter hc) []

theorem lowerChar_ne_nil (c : Char) : lowerChar c ≠ [] := by
  rw [lowerChar]
  split
  · exact List.cons_ne_nil _ _
  · split
    · exact List.cons_ne_nil _ _
    · split <;> exact List.cons_ne_nil _ _

/-- No character is lost. -/
theorem lower_eq_nil_iff {cs : List Char} : lower cs = [] ↔ cs = [] := by
  refine ⟨fun h => ?_, fun h => by rw [h]; rfl⟩
  cases cs with
  | nil => rfl
  | cons c rest =>
      obtain ⟨hc, -⟩ := List.append_eq_nil_iff.mp h
      split at hc
      · exact nomatch hc
      · exact absurd hc (lowerChar_ne_nil c)

/-! ## Marks -/

/-- A character in front of the small letters of ASCII that is its own small form. -/
def IsMark (c : Char) : Prop := IsSmall c ∧ 0 < c.toNat ∧ c.toNat < 97

instance : DecidablePred IsMark := fun c =>
  inferInstanceAs (Decidable (IsSmall c ∧ 0 < c.toNat ∧ c.toNat < 97))

theorem le_small_of_mem_caseRuns {r : CaseRun} (h : r ∈ caseRuns) : 97 ≤ r.small := by
  have hall : (caseRuns.all fun r => Nat.ble 97 r.small) = true := by decide +kernel
  exact Nat.le_of_ble_eq_true (List.all_eq_true.mp hall r h)

/-- No other character has a mark in its small form. -/
theorem eq_of_mem_lowerChar {c mark : Char} (hmark : IsMark mark) (h : mark ∈ lowerChar c) :
    mark = c := by
  obtain ⟨-, hpositive, hlow⟩ := hmark
  rw [lowerChar] at h
  split at h
  · next hascii =>
      have hall : ∀ n < 128, (Char.ofNat n).toLower.toNat < 97 →
          (Char.ofNat n).toLower = Char.ofNat n := by decide +kernel
      rw [List.mem_singleton] at h
      have hc := hall c.toNat hascii
      rw [Char.ofNat_toNat, ← h] at hc
      exact hc hlow
  · split at h
    · rw [List.mem_cons, List.mem_singleton] at h
      rcases h with rfl | rfl
      · exact absurd hlow (by decide)
      · exact absurd hlow (by decide)
    · split at h
      · next small hsmall =>
          obtain ⟨r, hr, hsmall⟩ := List.exists_of_findSome?_eq_some hsmall
          rw [CaseRun.small?, Option.ite_none_right_eq_some] at hsmall
          have hsum := Option.some.inj hsmall.2
          have hle := le_small_of_mem_caseRuns hr
          rw [List.mem_singleton.mp h] at hpositive hlow
          by_cases hvalid : small.isValidChar
          · rw [Char.ofNat, dif_pos hvalid] at hlow
            have hsmall : small < 97 := hlow
            omega
          · rw [Char.ofNat, dif_neg hvalid] at hpositive
            exact absurd hpositive (by decide)
      · exact List.mem_singleton.mp h

/-- The small form of a character in a text, where a mark stands in it. -/
theorem small_eq_of_mem {c mark : Char} {before rest : List Char} (hmark : IsMark mark)
    (h : mark ∈ if c.toNat = 0x3A3 then
        [Char.ofNat (if meetsCased before && !meetsCased rest then 0x3C2 else 0x3C3)]
      else lowerChar c) : mark = c := by
  split at h
  · rw [List.mem_singleton] at h
    have hlow := hmark.2.2
    rw [h] at hlow
    split at hlow <;> exact absurd hlow (by decide)
  · exact eq_of_mem_lowerChar hmark h

theorem lowerAfter_cons_mark {mark : Char} (hmark : IsMark mark) (before rest : List Char) :
    lowerAfter before (mark :: rest) = mark :: lowerAfter (mark :: before) rest := by
  rw [lowerAfter, if_neg hmark.1.2, hmark.1.1, List.singleton_append]

/-- A mark stands in a text in small letters if it stands in the text. -/
theorem mem_lowerAfter_iff {mark : Char} (hmark : IsMark mark) {before cs : List Char} :
    mark ∈ lowerAfter before cs ↔ mark ∈ cs := by
  induction cs generalizing before with
  | nil => exact Iff.rfl
  | cons c rest ih =>
      constructor
      · intro h
        rw [lowerAfter, List.mem_append, ih] at h
        rcases h with h | h
        · exact List.mem_cons.mpr (Or.inl (small_eq_of_mem hmark h))
        · exact List.mem_cons_of_mem _ h
      · intro h
        rcases List.mem_cons.mp h with rfl | h
        · rw [lowerAfter_cons_mark hmark]
          exact List.mem_cons_self ..
        · rw [lowerAfter]
          exact List.mem_append_right _ (ih.mpr h)

/-- A text in small letters begins with a mark if the text does. -/
theorem exists_of_lowerAfter_eq_cons {mark : Char} (hmark : IsMark mark)
    {before cs small : List Char} (h : lowerAfter before cs = mark :: small) :
    ∃ rest, cs = mark :: rest ∧ lowerAfter (mark :: before) rest = small := by
  cases cs with
  | nil => exact nomatch h
  | cons c rest =>
      have hc : mark = c := by
        rw [lowerAfter] at h
        refine @small_eq_of_mem c mark before rest hmark ?_
        -- The small form of a character is not empty, so the mark is in it.
        rcases List.append_eq_cons_iff.mp h with ⟨hnil, -⟩ | ⟨tail, htail, -⟩
        · split at hnil
          · exact nomatch hnil
          · exact absurd hnil (lowerChar_ne_nil c)
        · rw [htail]
          exact List.mem_cons_self ..
      subst hc
      rw [lowerAfter_cons_mark hmark] at h
      exact ⟨rest, rfl, (List.cons.inj h).2⟩

end SourceAtlas.Text
