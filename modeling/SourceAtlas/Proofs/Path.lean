import SourceAtlas.Path

/-! # Canonical paths

    `Path.normalize` turns backslashes round and drops every leading `./`.  A
    path that has been through it stays as it is (`normalize_normalize`), and
    two spellings of one path, which differ in the direction of slashes and in
    how often `./` stands in front, have one canonical form
    (`normalize_eq_of_respells`).  The last component of a path is the same in
    all of them (`baseChars_dropHere`). -/

namespace SourceAtlas.Path

open Text

/-- A character that has been replaced is gone. -/
theorem not_mem_replaceChar {old new : Char} (h : new ≠ old) (cs : List Char) :
    old ∉ replaceChar old new cs := by
  intro hmem
  obtain ⟨c, -, hc⟩ := List.mem_map.mp hmem
  by_cases hco : c = old
  · rw [if_pos hco] at hc
    exact h hc
  · rw [if_neg hco] at hc
    exact hco hc

/-- A text without the character to replace is kept. -/
theorem replaceChar_of_not_mem {old new : Char} {cs : List Char} (h : old ∉ cs) :
    replaceChar old new cs = cs := by
  have hkeep : ∀ c ∈ cs, (if c = old then new else c) = id c := by
    intro c hc
    exact if_neg (fun hco : c = old => h (hco ▸ hc))
  rw [replaceChar, List.map_congr_left hkeep, List.map_id]

theorem dropHere_here (cs : List Char) : dropHere ('.' :: '/' :: cs) = dropHere cs := rfl

/-- Only the front of a path is dropped. -/
theorem dropHere_suffix (cs : List Char) : dropHere cs <:+ cs := by
  fun_induction dropHere cs with
  | case1 rest ih => exact ih.trans ((List.suffix_cons _ _).trans (List.suffix_cons _ _))
  | case2 cs => exact List.suffix_refl cs

theorem dropHere_dropHere (cs : List Char) : dropHere (dropHere cs) = dropHere cs := by
  fun_induction dropHere cs with
  | case1 rest ih => exact ih
  | case2 cs hcs =>
      rw [dropHere.eq_2]
      exact hcs

/-- Any number of `./` in front is dropped. -/
theorem dropHere_replicate (n : Nat) (cs : List Char) :
    dropHere ((List.replicate n ['.', '/']).flatten ++ cs) = dropHere cs := by
  induction n with
  | zero => rfl
  | succ n ih =>
      rw [List.replicate_succ, List.flatten_cons, List.append_assoc]
      exact (dropHere_here _).trans ih

/-- A canonical path has no backslash. -/
theorem not_mem_normalizeChars (cs : List Char) : '\\' ∉ normalizeChars cs :=
  fun h => not_mem_replaceChar (by decide) cs ((dropHere_suffix _).subset h)

/-- The canonical spelling is its own canonical spelling. -/
theorem normalize_normalize (path : String) : normalize (normalize path) = normalize path := by
  have hchars : normalizeChars (normalizeChars path.toList) = normalizeChars path.toList := by
    rw [normalizeChars, replaceChar_of_not_mem (not_mem_normalizeChars _)]
    exact dropHere_dropHere _
  rw [normalize, normalize, String.toList_ofList, hchars]

/-- What is dropped in front does not belong to the last component. -/
theorem baseChars_dropHere (cs : List Char) : baseChars (dropHere cs) = baseChars cs := by
  fun_induction dropHere cs with
  | case1 rest ih =>
      rw [ih, baseChars, baseChars, splitLast, splitLast]
      cases splitLast '/' rest <;> rfl
  | case2 cs => rfl

/-- Up to the direction of its slashes, one path is another one with any number of `./` in
    front. -/
def Respells (p q : String) : Prop :=
  ∃ n : Nat, replaceChar '\\' '/' p.toList
    = (List.replicate n ['.', '/']).flatten ++ replaceChar '\\' '/' q.toList

/-- Spelling does not change the canonical form. -/
theorem normalize_eq_of_respells {p q : String} (h : Respells p q) :
    normalize p = normalize q := by
  obtain ⟨n, hn⟩ := h
  rw [normalize, normalize, normalizeChars, normalizeChars, hn, dropHere_replicate]

end SourceAtlas.Path
