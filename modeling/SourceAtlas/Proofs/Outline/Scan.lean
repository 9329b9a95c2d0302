import SourceAtlas.Outline.Extract

/-! # Reading the lines of a file

    A scan carries one thing from line to line, whether a group of imports is
    open (`insideAfter`).  So the hits of two stretches of lines are those of the
    first and then those of the second, read as the first has left off
    (`scan_append`), and numbers only move along (`scan_shift`).  The hits come in
    the order of their lines, each with the text of its line (`scan_inOrder`,
    `scan_onLine`). -/

namespace SourceAtlas

open Text

/-- A hit so many lines further down. -/
def Hit.shift (n : Nat) (h : Hit) : Hit := { h with line := h.line + n }

namespace Matchers

variable (m : Matchers)

/-- What a line says, with its number. -/
def hit? (inside : Bool) (line : Nat) (raw : List Char) : Option Hit :=
  (m.readLine inside (strip raw)).2.map (Hit.mk line (strip raw))

/-- A group of imports is open after some lines. -/
def insideAfter (inside : Bool) (lines : List (List Char)) : Bool :=
  lines.foldl (fun inside raw => (m.readLine inside (strip raw)).1) inside

theorem scan_cons (inside : Bool) (line : Nat) (raw : List Char) (rest : List (List Char)) :
    m.scan inside line (raw :: rest)
      = (m.hit? inside line raw).toList
        ++ m.scan (m.readLine inside (strip raw)).1 (line + 1) rest := by
  rw [scan, hit?]
  obtain ⟨next, found⟩ := m.readLine inside (strip raw)
  cases found with
  | none => rfl
  | some finding => rfl

/-- The hits of two stretches of lines. -/
theorem scan_append (inside : Bool) (line : Nat) (xs ys : List (List Char)) :
    m.scan inside line (xs ++ ys)
      = m.scan inside line xs ++ m.scan (m.insideAfter inside xs) (line + xs.length) ys := by
  induction xs generalizing inside line with
  | nil => rfl
  | cons raw rest ih =>
      rw [List.cons_append, scan_cons, scan_cons, ih, List.append_assoc, List.length_cons,
        Nat.add_right_comm]
      rfl

theorem hit?_add (inside : Bool) (line n : Nat) (raw : List Char) :
    m.hit? inside (line + n) raw = (m.hit? inside line raw).map (Hit.shift n) := by
  rw [hit?, hit?, Option.map_map]
  rfl

/-- Lines that are numbered from further on give the same hits, further down. -/
theorem scan_shift (inside : Bool) (line n : Nat) (lines : List (List Char)) :
    m.scan inside (line + n) lines = (m.scan inside line lines).map (Hit.shift n) := by
  induction lines generalizing inside line with
  | nil => rfl
  | cons raw rest ih =>
      rw [scan_cons, scan_cons, hit?_add, Nat.add_right_comm, ih, List.map_append,
        Option.toList_map]

variable {m}

theorem line_of_hit? {inside : Bool} {line : Nat} {raw : List Char} {h : Hit}
    (hh : h ∈ (m.hit? inside line raw).toList) : h.line = line ∧ h.text = strip raw := by
  obtain ⟨finding, -, rfl⟩ := Option.map_eq_some_iff.mp (Option.mem_toList.mp hh)
  exact ⟨rfl, rfl⟩

/-- Every hit is on one of the lines and has its text. -/
theorem scan_onLine {inside : Bool} {line : Nat} {lines : List (List Char)} {h : Hit}
    (hh : h ∈ m.scan inside line lines) :
    ∃ i, h.line = line + i ∧ ∃ raw, lines[i]? = some raw ∧ h.text = strip raw := by
  induction lines generalizing inside line with
  | nil => exact nomatch hh
  | cons raw rest ih =>
      rw [scan_cons, List.mem_append] at hh
      rcases hh with hh | hh
      · obtain ⟨hline, htext⟩ := line_of_hit? hh
        exact ⟨0, hline, raw, rfl, htext⟩
      · obtain ⟨i, hline, raw', hraw, htext⟩ := ih hh
        refine ⟨i + 1, ?_, raw', hraw, htext⟩
        rw [hline, Nat.add_right_comm, Nat.add_assoc]

theorem le_line_of_mem_scan {inside : Bool} {line : Nat} {lines : List (List Char)} {h : Hit}
    (hh : h ∈ m.scan inside line lines) : line ≤ h.line := by
  obtain ⟨i, hline, -⟩ := scan_onLine hh
  rw [hline]
  exact Nat.le_add_right ..

theorem line_lt_of_mem_scan {inside : Bool} {line : Nat} {lines : List (List Char)} {h : Hit}
    (hh : h ∈ m.scan inside line lines) : h.line < line + lines.length := by
  obtain ⟨i, hline, raw, hraw, -⟩ := scan_onLine hh
  obtain ⟨hi, -⟩ := List.getElem?_eq_some_iff.mp hraw
  rw [hline]
  exact Nat.add_lt_add_left hi line

/-- A line gives one hit at most, and the hits come in the order of the lines. -/
theorem scan_inOrder (inside : Bool) (line : Nat) (lines : List (List Char)) :
    (m.scan inside line lines).Pairwise (·.line < ·.line) := by
  induction lines generalizing inside line with
  | nil => exact List.Pairwise.nil
  | cons raw rest ih =>
      rw [scan_cons, List.pairwise_append]
      refine ⟨?_, ih .., ?_⟩
      · cases m.hit? inside line raw with
        | none => exact List.Pairwise.nil
        | some h => exact List.pairwise_singleton ..
      · intro h hh later hlater
        rw [(line_of_hit? hh).1]
        exact le_line_of_mem_scan hlater

end Matchers

/-! ## The hits of a file -/

namespace Language

/-- What the lines of a file say. -/
def hits (l : Language) (lines : List (List Char)) : List Hit :=
  if l.matchers.declares then l.matchers.scan false 1 lines else []

variable (l : Language) (lines : List (List Char))

theorem mem_scan_of_mem_hits {h : Hit} (hh : h ∈ l.hits lines) :
    h ∈ l.matchers.scan false 1 lines := by
  rw [hits] at hh
  split at hh
  · exact hh
  · exact nomatch hh

theorem hits_inOrder : (l.hits lines).Pairwise (·.line < ·.line) := by
  rw [hits]
  split
  · exact Matchers.scan_inOrder ..
  · exact List.Pairwise.nil

theorem line_le_of_mem_hits {h : Hit} (hh : h ∈ l.hits lines) : h.line ≤ lines.length := by
  have hlt := Matchers.line_lt_of_mem_scan (l.mem_scan_of_mem_hits lines hh)
  omega

theorem one_le_line_of_mem_hits {h : Hit} (hh : h ∈ l.hits lines) : 1 ≤ h.line :=
  Matchers.le_line_of_mem_scan (l.mem_scan_of_mem_hits lines hh)

/-- If no group of imports is open between them, the hits of two stretches of lines are those of
    each, the second ones further down. -/
theorem hits_append {xs : List (List Char)} (ys : List (List Char))
    (h : l.matchers.insideAfter false xs = false) :
    l.hits (xs ++ ys) = l.hits xs ++ (l.hits ys).map (Hit.shift xs.length) := by
  rw [hits, hits, hits]
  split
  · rw [Matchers.scan_append, h, Matchers.scan_shift]
  · rfl

end Language

end SourceAtlas
