import SourceAtlas.Proofs.Path.Tail
import SourceAtlas.Text.Word

/-! # Plain paths

    The segments of a plain path start with a letter or digit and go on with
    letters, digits, low lines, hyphens and dots.  So a plain path has no blank
    in it, no quote, no backslash and no colon (`IsPlain.eq_slash_or`), and
    nothing in front that would stand for a place (`IsPlain.exists_start`).
    What follows a slash in a plain path is plain again (`IsPlain.behind`). -/

namespace SourceAtlas

open Text

/-- The code points of the blanks. -/
def Text.blankPoints : List Nat :=
  List.range' 9 5 ++ List.range' 28 5 ++ List.range' 0x2000 11
    ++ [0x85, 0xA0, 0x1680, 0x2028, 0x2029, 0x202F, 0x205F, 0x3000]

theorem Text.toNat_mem_blankPoints {c : Char} (h : isBlank c = true) : c.toNat ∈ blankPoints := by
  simp only [isBlank, Bool.or_eq_true, Bool.and_eq_true, decide_eq_true_eq] at h
  simp only [blankPoints, List.mem_append, List.mem_range'_1, List.mem_cons, List.not_mem_nil,
    or_false]
  omega

/-- No blank is a word character. -/
theorem Text.isWord_of_isBlank {c : Char} (h : isBlank c = true) : isWord c = false := by
  -- The blanks are few, so their code points can be gone through, unlike the characters.
  have hpoints : ∀ n ∈ blankPoints, isWord (Char.ofNat n) = false := by decide +kernel
  rw [← Char.ofNat_toNat c]
  exact hpoints _ (toNat_mem_blankPoints h)

namespace Path

/-- A character inside a plain segment. -/
def isPlainChar (c : Char) : Bool :=
  isWord c || c = '-' || c = '.'

/-- A segment that starts with a letter or digit and goes on with plain characters. -/
def isPlainSegment : List Char → Bool
  | [] => false
  | c :: rest => isWord c && c ≠ '_' && rest.all isPlainChar

/-- Plain segments with a slash between any two that follow each other. -/
inductive IsPlain : List Char → Prop where
  | last {segment : List Char} : isPlainSegment segment = true → IsPlain segment
  | cons {segment rest : List Char} : isPlainSegment segment = true → IsPlain rest →
      IsPlain (segment ++ '/' :: rest)

/-! ## Segments -/

theorem isPlainChar_of_mem {segment : List Char} (h : isPlainSegment segment = true) :
    ∀ c ∈ segment, isPlainChar c = true := by
  cases segment with
  | nil => exact nofun
  | cons first rest =>
      rw [isPlainSegment, Bool.and_eq_true, Bool.and_eq_true] at h
      rintro c hc
      rcases List.mem_cons.mp hc with rfl | hc
      · rw [isPlainChar, h.1.1]
        rfl
      · exact List.all_eq_true.mp h.2 c hc

theorem slash_not_mem {segment : List Char} (h : isPlainSegment segment = true) :
    '/' ∉ segment := fun hmem => absurd (isPlainChar_of_mem h _ hmem) (by decide)

/-! ## Paths -/

namespace IsPlain

variable {cs : List Char}

/-- A plain path starts with a letter or digit. -/
theorem exists_start (h : IsPlain cs) :
    ∃ c rest, cs = c :: rest ∧ isWord c = true ∧ c ≠ '_' := by
  have hsegment : ∀ segment, isPlainSegment segment = true → ∀ tail,
      ∃ c rest, segment ++ tail = c :: rest ∧ isWord c = true ∧ c ≠ '_' := by
    intro segment hsegment tail
    cases segment with
    | nil => exact nomatch hsegment
    | cons c rest =>
        rw [isPlainSegment, Bool.and_eq_true, Bool.and_eq_true, decide_eq_true_eq] at hsegment
        exact ⟨c, rest ++ tail, rfl, hsegment.1⟩
  cases h with
  | last hs => exact List.append_nil cs ▸ hsegment cs hs []
  | cons hs _ => exact hsegment _ hs _

/-- Only slashes and plain characters occur in a plain path. -/
theorem eq_slash_or (h : IsPlain cs) : ∀ c ∈ cs, c = '/' ∨ isPlainChar c = true := by
  induction h with
  | last hs => exact fun c hc => Or.inr (isPlainChar_of_mem hs c hc)
  | cons hs _ ih =>
      intro c hc
      rcases List.mem_append.mp hc with hc | hc
      · exact Or.inr (isPlainChar_of_mem hs c hc)
      · rcases List.mem_cons.mp hc with rfl | hc
        · exact Or.inl rfl
        · exact ih c hc

/-- What follows a slash in a plain path is plain. -/
theorem behind {front rest : List Char} (h : IsPlain (front ++ '/' :: rest)) : IsPlain rest := by
  generalize hwhole : front ++ '/' :: rest = whole at h
  -- The induction is on the segments of the whole; what is in front of the slash is left open.
  induction h generalizing front with
  | last hs =>
      refine absurd ?_ (slash_not_mem hs)
      rw [← hwhole]
      exact List.mem_append_right _ (List.mem_cons_self ..)
  | @cons segment tail hs htail ih =>
      -- The slash is the first one, or it stands in the tail.
      rcases List.append_eq_append_iff.mp hwhole with ⟨gap, hgap, hrest⟩ | ⟨gap, hgap, hrest⟩
      · cases gap with
        | nil => exact (List.cons.inj hrest).2 ▸ htail
        | cons c gap =>
            obtain ⟨rfl, -⟩ := List.cons.inj hrest
            refine absurd ?_ (slash_not_mem hs)
            rw [hgap]
            exact List.mem_append_right _ (List.mem_cons_self ..)
      · cases gap with
        | nil => exact (List.cons.inj hrest).2 ▸ htail
        | cons c gap => exact ih (List.cons.inj hrest).2.symm

theorem of_isTail {part : List Char} (h : IsPlain cs) (htail : IsTail part cs) : IsPlain part := by
  rcases htail with rfl | ⟨front, rfl⟩
  · exact h
  · exact h.behind

/-- The last component of a plain path is a plain segment. -/
theorem isPlainSegment_baseChars (h : IsPlain cs) : isPlainSegment (baseChars cs) = true := by
  induction h with
  | last hs => rwa [baseChars_of_not_mem (slash_not_mem hs)]
  | cons _ _ ih => rwa [baseChars_behind]

end IsPlain

end Path

end SourceAtlas
