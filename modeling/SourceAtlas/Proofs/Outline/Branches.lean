import Mathlib.Algebra.BigOperators.Ring.Finset
import SourceAtlas.Proofs.Outline.Join

/-! # Branches are conserved

    The lines of the declarations, one declaration after the other, are the lines
    of the file from the first declaration on (`Tiles.flatten_lines`).  The
    complexity of each counts the tokens on its own lines
    (`complexity_of_declaration?`), so together they count every token behind the
    start of the first declaration, and none of them twice
    (`tokens_ofText`). -/

namespace SourceAtlas

open Text

namespace Matchers

/-- The number of branch tokens on the lines that are neither blank nor comments. -/
def tokens (m : Matchers) (lines : List (List Char)) : Nat :=
  (((lines.map strip).filter fun line => line ≠ [] ∧ m.isComment line = false).map
    m.branch.count).sum

/-- The branches on lines are the tokens on those that count. -/
theorem branches_eq_tokens (m : Matchers) (lines : List (List Char)) :
    m.branches lines = m.tokens lines := by
  induction lines with
  | nil => rfl
  | cons raw rest ih =>
      rw [branches, ih, branchesOn, tokens, tokens, List.map_cons, List.filter_cons]
      by_cases hcounts : strip raw ≠ [] ∧ m.isComment (strip raw) = false
      · have hskip : ((strip raw).isEmpty || m.isComment (strip raw)) = false := by
          rw [hcounts.2, Bool.or_false, List.isEmpty_eq_false_iff]
          exact hcounts.1
        rw [if_pos (decide_eq_true hcounts), List.map_cons, List.sum_cons, hskip]
        rfl
      · have hskip : ((strip raw).isEmpty || m.isComment (strip raw)) = true := by
          rw [Bool.or_eq_true, List.isEmpty_iff]
          by_contra hnone
          rw [not_or, Bool.not_eq_true] at hnone
          exact hcounts hnone
        rw [if_neg (fun h => hcounts (of_decide_eq_true h)), hskip]
        exact Nat.zero_add _

variable {m : Matchers} {lines : List (List Char)}

theorem branches_flatten (m : Matchers) (parts : List (List (List Char))) :
    m.branches parts.flatten = (parts.map m.branches).sum := by
  induction parts with
  | nil => rfl
  | cons part rest ih => rw [List.flatten_cons, branches_append, ih, List.map_cons, List.sum_cons]

/-- A declaration has the branches on its lines. -/
theorem complexity_of_declaration? {hit : Hit} {last : Nat} {d : Declaration}
    (hd : (m.entryOf lines hit last).declaration? = some d) :
    d.complexity = 1 + (m.branches (linesBetween d.firstLine d.lastLine lines) : Nat) := by
  obtain ⟨line, text, finding⟩ := hit
  cases finding with
  | declares => rw [← Option.some.inj hd]
  | imports => exact nomatch hd

end Matchers

/-! ## The lines of the declarations -/

/-- Two stretches of lines, the second right behind the first. -/
theorem linesBetween_append {first middle last : Nat} (lines : List (List Char))
    (hfirst : first ≤ middle) (hlast : middle ≤ last) :
    linesBetween first middle lines ++ linesBetween (middle + 1) last lines
      = linesBetween first last lines := by
  have hstart : first - 1 + (middle - (first - 1)) = middle := by omega
  have hfront : (linesBetween first last lines).take (middle - (first - 1))
      = linesBetween first middle lines := by
    rw [linesBetween, List.take_drop, hstart, List.take_take, Nat.min_eq_left hlast]
    rfl
  have hback : (linesBetween first last lines).drop (middle - (first - 1))
      = linesBetween (middle + 1) last lines := by
    rw [linesBetween, List.drop_drop, hstart]
    rfl
  rw [← hfront, ← hback, List.take_append_drop]

namespace Tiles

variable {first last : Nat} {ds : List Declaration}

theorem head?_firstLine (h : Tiles first ds last) : ds.head?.map (·.firstLine) = some first := by
  cases h <;> rfl

/-- Put together, the lines of the declarations are those from the first to the last one. -/
theorem flatten_lines (h : Tiles first ds last) (lines : List (List Char)) :
    (ds.map fun d => linesBetween d.firstLine d.lastLine lines).flatten
      = linesBetween first last lines := by
  induction h with
  | last => exact List.flatten_singleton
  | cons hd hrest ih =>
      rw [List.map_cons, List.flatten_cons, ih]
      exact linesBetween_append lines hd (Nat.le_of_lt hrest.first_le)

end Tiles

namespace Outline

/-- **BRANCHES ARE CONSERVED**: whatever the text and the language, if something is declared, the
    complexities, less one for each declaration, add up to the tokens on the lines from the first
    declaration to the end of the file; and each of them counts those on the declaration's lines. -/
theorem tokens_ofText (path : String) (l : Language) (content : String)
    (hsome : (ofText path l content).declarations ≠ []) :
    (∃ first, ((ofText path l content).declarations.map (·.firstLine)).min? = some first
      ∧ (((ofText path l content).declarations.map fun d => d.complexity - 1).sum : Int)
        = l.matchers.tokens ((Text.lines content.toList).drop (first - 1)))
    ∧ ∀ d ∈ (ofText path l content).declarations, d.complexity
        = 1 + l.matchers.tokens
          (linesBetween d.firstLine d.lastLine (Text.lines content.toList)) := by
  rw [ofText] at hsome ⊢
  generalize Text.lines content.toList = lines at hsome ⊢
  have hperm := perm_declarations_ofLines path l content lines
  have hord := @Matchers.declarationsOf_inOrder l.matchers lines lines.length _
    (l.hits_inOrder lines)
  have hcount : ∀ d ∈ (ofLines path l content lines).declarations, d.complexity
      = 1 + l.matchers.branches (linesBetween d.firstLine d.lastLine lines) := by
    intro d hd
    obtain ⟨e, he, hd⟩ := List.mem_filterMap.mp (hperm.mem_iff.mpr hd)
    obtain ⟨hit, -, last, rfl⟩ := Matchers.exists_of_mem_entriesUntil _ _ he
    exact Matchers.complexity_of_declaration? hd
  refine ⟨?_, fun d hd => ?_⟩
  · rcases tiles_ofLines l lines with hnil | ⟨first, htiles⟩
    · rw [hnil] at hperm
      exact absurd hperm.nil_eq.symm hsome
    · refine ⟨first, (min?_firstLines hperm hord).trans htiles.head?_firstLine, ?_⟩
      -- Each declaration adds the branches on its lines, whatever the order of the declarations.
      have hless : (ofLines path l content lines).declarations.map (fun d => d.complexity - 1)
          = (ofLines path l content lines).declarations.map fun d =>
            ((l.matchers.branches (linesBetween d.firstLine d.lastLine lines) : Nat) : Int) := by
        refine List.map_congr_left fun d hd => ?_
        rw [hcount d hd, add_sub_cancel_left]
      have hlines := congrArg l.matchers.branches (htiles.flatten_lines lines)
      rw [Matchers.branches_flatten, List.map_map, linesBetween, List.take_length,
        Matchers.branches_eq_tokens] at hlines
      rw [hless, ← (hperm.map _).sum_eq, ← hlines, Nat.cast_list_sum, List.map_map]
      rfl
  · rw [hcount d hd, Matchers.branches_eq_tokens]

/-- In a file with two functions, of which the first has two branches and one in a comment, the
    complexities less one add up to two. -/
theorem tokens_ofText_body :
    (ofText "m.go" .go (textOf (upToBody ++ fromBody))).declarations ≠ []
    ∧ ((ofText "m.go" .go (textOf (upToBody ++ fromBody))).declarations.map
        fun d => d.complexity - 1) = [2, 0]
    ∧ (((ofText "m.go" .go (textOf (upToBody ++ fromBody))).declarations.map
        fun d => d.complexity - 1).sum : Int)
      = Language.go.matchers.tokens
          ((Text.lines (textOf (upToBody ++ fromBody)).toList).drop 3) := by
  have hsome : (ofText "m.go" .go (textOf (upToBody ++ fromBody))).declarations ≠ [] := by
    decide +kernel
  have hfirst : ((ofText "m.go" .go (textOf (upToBody ++ fromBody))).declarations.map
      (·.firstLine)).min? = some 4 := by
    decide +kernel
  obtain ⟨⟨first, hmin, hsum⟩, -⟩ := tokens_ofText "m.go" .go (textOf (upToBody ++ fromBody)) hsome
  obtain rfl : 4 = first := Option.some.inj (hfirst.symm.trans hmin)
  exact ⟨hsome, by decide +kernel, hsum⟩

end Outline

end SourceAtlas
