import Mathlib.Data.List.DropRight
import SourceAtlas.Text.Blank

/-! # Blanks at the ends

    Stripping a text removes its blanks at both ends and no other character: it
    keeps what stands between two characters that are none (`strip_around`), and
    whatever blanks are put around a text, the same is left of it
    (`strip_respaced`).  A text is left as it is exactly if no blank stands at
    either end (`strip_eq_self_iff`), and so a stripped text has nothing more to
    strip (`strip_strip`). -/

namespace SourceAtlas.Text

/-- What is dropped from the front of a text ends at a character that is not of the class. -/
theorem dropWhile_append_cons {p : Char → Bool} {c : Char} (hc : p c = false)
    (front rest : List Char) :
    (front ++ c :: rest).dropWhile p = front.dropWhile p ++ c :: rest := by
  have hstop : (c :: rest).dropWhile p = c :: rest :=
    List.dropWhile_cons_of_neg (ne_true_of_eq_false hc)
  rw [List.dropWhile_append, hstop]
  split
  · rename_i hempty
    rw [List.isEmpty_iff.mp hempty, List.nil_append]
  · rfl

/-- Blanks are removed up to the characters at both ends that are none. -/
theorem strip_around {a b : Char} (ha : isBlank a = false) (hb : isBlank b = false)
    (front cs back : List Char) :
    strip (front ++ (a :: cs ++ [b]) ++ back)
      = front.dropWhile isBlank ++ (a :: cs ++ [b]) ++ dropEnd isBlank back := by
  unfold strip trim dropEnd
  have hfront : (front ++ (a :: cs ++ [b]) ++ back).dropWhile isBlank
      = front.dropWhile isBlank ++ a :: (cs ++ [b] ++ back) := by
    rw [← dropWhile_append_cons ha]
    simp only [List.append_assoc, List.cons_append]
  have hback : (front.dropWhile isBlank ++ a :: (cs ++ [b] ++ back)).reverse
      = back.reverse ++ b :: (front.dropWhile isBlank ++ a :: cs).reverse := by
    simp
  rw [hfront, hback, dropWhile_append_cons hb, List.reverse_append, List.reverse_cons,
    List.reverse_reverse]
  simp only [List.append_assoc, List.cons_append]

theorem strip_eq_self {a b : Char} (ha : isBlank a = false) (hb : isBlank b = false)
    (cs : List Char) : strip (a :: cs ++ [b]) = a :: cs ++ [b] := by
  have h := strip_around ha hb [] cs []
  rw [List.append_nil] at h
  exact h.trans (List.append_nil _)

/-- A text that neither begins nor ends with a blank is stripped. -/
theorem strip_of_ends {cs : List Char} (hfirst : ∀ c ∈ cs.head?, isBlank c = false)
    (hlast : ∀ c ∈ cs.getLast?, isBlank c = false) : strip cs = cs := by
  have hkeeps : ∀ ds : List Char, (∀ c ∈ ds.head?, isBlank c = false) →
      ds.dropWhile isBlank = ds := by
    intro ds hds
    cases ds with
    | nil => rfl
    | cons c rest => exact List.dropWhile_cons_of_neg (ne_true_of_eq_false (hds c rfl))
  rw [strip, trim, hkeeps cs hfirst, dropEnd, hkeeps cs.reverse, List.reverse_reverse]
  rw [List.head?_reverse]
  exact hlast

/-- What is dropped from the front of a text ends where a character is not of the class. -/
theorem not_of_mem_head?_dropWhile {p : Char → Bool} {c : Char} {cs : List Char}
    (h : c ∈ (cs.dropWhile p).head?) : p c = false := by
  have hstop := List.head?_dropWhile_not p cs
  rw [Option.mem_def.mp h] at hstop
  exact (Bool.not_eq_true _).mp (by simpa using hstop)

/-- A stripped text does not end with a blank. -/
theorem isBlank_of_mem_getLast?_strip {cs : List Char} {c : Char}
    (h : c ∈ (strip cs).getLast?) : isBlank c = false := by
  rw [strip, trim, dropEnd, List.getLast?_reverse] at h
  exact not_of_mem_head?_dropWhile h

theorem infix_of_trim (p : Char → Bool) (cs : List Char) : trim p cs <:+: cs := by
  have hkept : trim p cs <+: cs.dropWhile p := by
    rw [← List.reverse_suffix]
    show (((cs.dropWhile p).reverse.dropWhile p).reverse).reverse <:+ _
    rw [List.reverse_reverse]
    exact List.dropWhile_suffix _
  exact hkept.isInfix.trans (List.dropWhile_suffix _).isInfix

theorem infix_of_strip (cs : List Char) : strip cs <:+: cs :=
  infix_of_trim isBlank cs

/-- A text is stripped if and only if it neither begins nor ends with a blank. -/
theorem strip_eq_self_iff {cs : List Char} :
    strip cs = cs ↔ (∀ c ∈ cs.head?, isBlank c = false) ∧ ∀ c ∈ cs.getLast?, isBlank c = false := by
  refine ⟨fun h => ⟨fun c hc => ?_, fun c hc => ?_⟩, fun h => strip_of_ends h.1 h.2⟩
  · obtain ⟨rest, rfl⟩ := List.head?_eq_some_iff.mp (Option.mem_def.mp hc)
    refine Bool.eq_false_iff.mpr fun hblank => ?_
    have hshorter : strip (c :: rest) = strip rest := by
      rw [strip, trim, List.dropWhile_cons_of_pos hblank, strip, trim]
    have hlength := (infix_of_strip rest).length_le
    rw [← hshorter, h, List.length_cons] at hlength
    omega
  · rw [← h] at hc
    exact isBlank_of_mem_getLast?_strip hc

/-! ## Blanks around a text -/

theorem dropEnd_append_of_pos {p : Char → Bool} {back : List Char} (h : ∀ c ∈ back, p c = true)
    (cs : List Char) : dropEnd p (cs ++ back) = dropEnd p cs := by
  rw [dropEnd, List.reverse_append, List.dropWhile_append_of_pos]
  · rfl
  · exact fun c hc => h c (List.mem_reverse.mp hc)

theorem dropWhile_append_of_neg {p : Char → Bool} {cs : List Char} (h : cs.dropWhile p ≠ [])
    (back : List Char) : (cs ++ back).dropWhile p = cs.dropWhile p ++ back := by
  rw [List.dropWhile_append, if_neg]
  rwa [List.isEmpty_iff]

/-- Blanks around a text are all removed, whatever they are. -/
theorem strip_respaced {front back : List Char} (hfront : ∀ c ∈ front, isBlank c = true)
    (hback : ∀ c ∈ back, isBlank c = true) (cs : List Char) :
    strip (front ++ cs ++ back) = strip cs := by
  rw [strip, trim, List.append_assoc, List.dropWhile_append_of_pos hfront]
  by_cases hcs : cs.dropWhile isBlank = []
  · have hblank : ∀ c ∈ cs ++ back, isBlank c = true := fun c hc =>
      (List.mem_append.mp hc).elim (List.dropWhile_eq_nil_iff.mp hcs c) (hback c)
    rw [List.dropWhile_eq_nil_iff.mpr hblank, strip, trim, hcs]
  · rw [dropWhile_append_of_neg hcs, dropEnd_append_of_pos hback]
    rfl

/-- A text is what is left of it, with blanks around. -/
theorem exists_respaced (cs : List Char) : ∃ front back : List Char,
    (∀ c ∈ front, isBlank c = true) ∧ (∀ c ∈ back, isBlank c = true)
      ∧ front ++ strip cs ++ back = cs := by
  refine ⟨cs.takeWhile isBlank, (cs.dropWhile isBlank).rtakeWhile isBlank,
    fun c => List.mem_takeWhile_imp, fun c => List.mem_rtakeWhile_imp, ?_⟩
  have hback : strip cs ++ (cs.dropWhile isBlank).rtakeWhile isBlank = cs.dropWhile isBlank :=
    List.rdropWhile_append_rtakeWhile
  rw [List.append_assoc, hback, List.takeWhile_append_dropWhile]

/-- Nothing is left of a text exactly if all of it is blank. -/
theorem strip_eq_nil_iff {cs : List Char} : strip cs = [] ↔ ∀ c ∈ cs, isBlank c = true := by
  constructor
  · intro h
    obtain ⟨front, back, hfront, hback, hcs⟩ := exists_respaced cs
    rw [h, List.append_nil] at hcs
    intro c hc
    rw [← hcs] at hc
    exact (List.mem_append.mp hc).elim (hfront c) (hback c)
  · intro h
    rw [strip, trim, List.dropWhile_eq_nil_iff.mpr h]
    rfl

@[simp] theorem strip_strip (cs : List Char) : strip (strip cs) = strip cs := by
  obtain ⟨front, back, hfront, hback, hcs⟩ := exists_respaced cs
  rw [← strip_respaced hfront hback (strip cs), hcs]

end SourceAtlas.Text
