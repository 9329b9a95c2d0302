import SourceAtlas.Proofs.Outline.Shift
import SourceAtlas.Proofs.Outline.Spans
import SourceAtlas.Proofs.Text.Lines

/-! # The outline of a file in two parts

    Nothing but an open group of imports leaks from one line to a later one.  So
    the outline of two parts together is the outline of the first and, moved
    down, that of the second; only the last declaration of the first part grows
    into the second one (`IsJoin`).  `isJoin_ofText` says so of every cut at
    which no group of imports is open. -/

namespace SourceAtlas.Outline

open Text

/-! ## What becomes of the parts -/

/-- The declaration that starts last. -/
def lastDeclaration? (o : Outline) : Option Declaration :=
  o.declarations.find? fun d => o.declarations.all (·.firstLine ≤ d.firstLine)

/-- The number of lines before the first declaration; all lines, if there is none. -/
def leading (o : Outline) : Nat :=
  match (o.declarations.map (·.firstLine)).min? with
  | some line => line - 1
  | none => o.lineCount.toNat

/-- The declaration, grown if it is the last one of the outline. -/
def growDeclaration (o : Outline) (last branches : Nat) (d : Declaration) : Declaration :=
  if o.lastDeclaration? = some d then d.grow last branches else d

/-- The outline entry, grown if it shows the last declaration of the outline. -/
def growItem (o : Outline) (last branches : Nat) (i : Item) : Item :=
  match o.lastDeclaration? with
  | some d => if i.firstLine = d.firstLine then i.showing (d.grow last branches) else i
  | none => i

/-- The outline of the lines `xs` and then `ys`, compared with the outlines of `xs` and of `ys`.
    The last declaration of `xs` has the lines before the first one of `ys`, too, and the branches
    on them. -/
structure IsJoin (m : Matchers) (xs ys : List (List Char)) (a b ab : Outline) : Prop where
  lineCount : ab.lineCount = a.lineCount + b.lineCount
  commentCount : ab.commentCount = a.commentCount + b.commentCount
  scope : ab.scope = a.scope.or b.scope
  imports : ab.imports = a.imports ++ b.imports.map (·.shift xs.length)
  declared : ∀ c : Category, ab.declared c
    = (a.declared c).map
        (a.growDeclaration (xs.length + b.leading) (m.branches (ys.take b.leading)))
      ++ (b.declared c).map (·.shift xs.length)
  items : ab.items
    = a.items.map (a.growItem (xs.length + b.leading) (m.branches (ys.take b.leading)))
      ++ b.items.map (·.shift xs.length)

/-! ## The first and the last declaration -/

section

variable {o : Outline} {ds : List Declaration}

theorem lastDeclaration?_eq (hperm : ds.Perm o.declarations)
    (hord : ds.Pairwise (·.firstLine < ·.firstLine)) : o.lastDeclaration? = ds.getLast? := by
  rcases List.eq_nil_or_concat' ds with rfl | ⟨before, d, rfl⟩
  · rw [lastDeclaration?, ← hperm.nil_eq]
    rfl
  · obtain ⟨-, -, hlt⟩ := List.pairwise_append.mp hord
    have hearlier : ∀ e ∈ o.declarations, e = d ∨ e.firstLine < d.firstLine := by
      intro e he
      rcases List.mem_append.mp (hperm.mem_iff.mpr he) with he | he
      · exact Or.inr (hlt e he d (List.mem_singleton_self d))
      · exact Or.inl (List.mem_singleton.mp he)
    have hd : d ∈ o.declarations :=
      hperm.mem_iff.mp (List.mem_append_right _ (List.mem_singleton_self d))
    rw [List.getLast?_concat]
    cases hfound : o.lastDeclaration? with
    | none =>
        refine absurd (List.all_eq_true.mpr fun e he => ?_) (List.find?_eq_none.mp hfound d hd)
        rcases hearlier e he with rfl | hlt
        · exact decide_eq_true (Nat.le_refl _)
        · exact decide_eq_true (Nat.le_of_lt hlt)
    | some e =>
        rw [lastDeclaration?] at hfound
        have hall := List.find?_some hfound
        have hle := List.all_eq_true.mp hall d hd
        rcases hearlier e (List.mem_of_find?_eq_some hfound) with rfl | hlt
        · rfl
        · exact absurd (of_decide_eq_true hle) (Nat.not_le_of_lt hlt)

theorem min?_firstLines (hperm : ds.Perm o.declarations)
    (hord : ds.Pairwise (·.firstLine < ·.firstLine)) :
    (o.declarations.map (·.firstLine)).min? = ds.head?.map (·.firstLine) := by
  cases ds with
  | nil =>
      rw [← hperm.nil_eq]
      rfl
  | cons d rest =>
      obtain ⟨hlater, -⟩ := List.pairwise_cons.mp hord
      refine List.min?_eq_some_iff.mpr ⟨?_, ?_⟩
      · exact List.mem_map_of_mem (hperm.mem_iff.mp (List.mem_cons_self ..))
      · intro line hline
        obtain ⟨e, he, rfl⟩ := List.mem_map.mp hline
        rcases List.mem_cons.mp (hperm.mem_iff.mpr he) with rfl | he
        · exact Nat.le_refl _
        · exact Nat.le_of_lt (hlater e he)

end

section

variable (path : String) (l : Language) (content : String) (lines : List (List Char))

theorem lastDeclaration?_ofLines :
    (ofLines path l content lines).lastDeclaration?
      = (declarationsOf (l.entriesOf lines)).getLast? :=
  lastDeclaration?_eq (perm_declarations_ofLines path l content lines)
    (Matchers.declarationsOf_inOrder (l.hits_inOrder lines))

/-- The lines before the first declaration are those before the first hit that declares. -/
theorem leading_ofLines :
    (ofLines path l content lines).leading = endBefore lines.length (l.hits lines) := by
  have hmin := min?_firstLines (perm_declarations_ofLines path l content lines)
    (Matchers.declarationsOf_inOrder (l.hits_inOrder lines))
  rw [Language.entriesOf, Matchers.head?_declarationsOf] at hmin
  rw [leading, hmin]
  cases hn : nextDeclaration? (l.hits lines) with
  | none => exact (endBefore_of_none hn _).symm
  | some line => exact (endBefore_of_some hn _).symm

/-! ## The parts of the outline -/

theorem declared_growIf (c : Category) (target : Option Declaration) (last branches : Nat)
    (e : Entry) :
    (e.growIf target last branches).declaredAs? c
      = (e.declaredAs? c).map fun d => if target = some d then d.grow last branches else d := by
  obtain ⟨item, declared⟩ := e
  cases declared with
  | none => rfl
  | some pair =>
      obtain ⟨found, d⟩ := pair
      by_cases htarget : target = some d
      · rw [Entry.growIf_of_eq htarget, Entry.declaredAs?_mk_some, Entry.declaredAs?_mk_some]
        split
        · rw [Option.map_some, if_pos htarget]
        · rfl
      · rw [Entry.growIf_of_ne htarget, Entry.declaredAs?_mk_some]
        split
        · rw [Option.map_some, if_neg htarget]
        · rfl

theorem declared_shift (c : Category) (n : Nat) (e : Entry) :
    (e.shift n).declaredAs? c = (e.declaredAs? c).map (Declaration.shift n) := by
  obtain ⟨item, declared⟩ := e
  cases declared with
  | none => rfl
  | some pair =>
      obtain ⟨found, d⟩ := pair
      show (if found = c then some (d.shift n) else none)
        = (if found = c then some d else none).map (Declaration.shift n)
      split <;> rfl

theorem importOf?_shift (n : Nat) (hit : Hit) :
    importOf? l (hit.shift n) = (importOf? l hit).map (Import.shift n) := by
  obtain ⟨line, text, finding⟩ := hit
  cases finding with
  | declares => rfl
  | imports => rfl

theorem scopeOf?_append (m : Matchers) (xs ys : List (List Char)) :
    m.scopeOf? (xs ++ ys) = (m.scopeOf? xs).or (m.scopeOf? ys) := by
  rw [Matchers.scopeOf?, Matchers.scopeOf?, Matchers.scopeOf?]
  cases m.namespaceLine with
  | none => rfl
  | some p => exact List.findSome?_append

/-- The entries of a file in two parts. -/
theorem entriesOf_append {xs : List (List Char)} (ys : List (List Char))
    (h : l.matchers.insideAfter false xs = false) :
    l.entriesOf (xs ++ ys)
      = (l.entriesOf xs).map
          (Entry.growIf (declarationsOf (l.entriesOf xs)).getLast?
            (xs.length + endBefore ys.length (l.hits ys))
            (l.matchers.branches (ys.take (endBefore ys.length (l.hits ys)))))
        ++ (l.entriesOf ys).map (Entry.shift xs.length) := by
  have hfirst : ∀ hit ∈ l.hits ys, 1 ≤ hit.line := fun _ hh => l.one_le_line_of_mem_hits ys hh
  rw [Language.entriesOf, l.hits_append ys h, Matchers.entriesUntil_append, List.length_append,
    Nat.add_comm xs.length ys.length, endBefore_shift _ _ hfirst,
    l.matchers.entriesUntil_shift ys _ hfirst,
    l.matchers.entriesUntil_grow ys (Nat.le_add_left ..) (l.hits_inOrder xs)
      (fun _ hh => l.line_le_of_mem_hits xs hh),
    Nat.add_sub_cancel, Nat.add_comm (endBefore ..)]
  rfl

variable {l lines}

/-- Of the entries of a file, the one that stands for a declaration starts where it does. -/
theorem declaration?_eq_some_iff {e : Entry} (he : e ∈ l.entriesOf lines) {d : Declaration}
    (hd : d ∈ declarationsOf (l.entriesOf lines)) :
    e.declaration? = some d ↔ e.item.firstLine = d.firstLine := by
  have hline : ∀ e' ∈ l.entriesOf lines, e'.declaration? = some d →
      e'.item.firstLine = d.firstLine := by
    intro e' he' hd'
    obtain ⟨hit, -, n, rfl⟩ := Matchers.exists_of_mem_entriesUntil _ _ he'
    rw [Matchers.firstLine_entryOf, Matchers.firstLine_of_declaration? hd']
  obtain ⟨found, hfound, hdfound⟩ := List.mem_filterMap.mp hd
  have hnodup : ((l.entriesOf lines).map (·.item.firstLine)).Nodup :=
    (firstLines_inOrder l lines).imp Nat.ne_of_lt
  refine ⟨hline e he, fun h => ?_⟩
  have heq : e = found :=
    List.inj_on_of_nodup_map hnodup he hfound (h.trans (hline found hfound hdfound).symm)
  rw [heq, hdfound]

/-- The entry that starts where the last declaration does is the one that grows. -/
theorem item_growIf (path content : String) {e : Entry} (he : e ∈ l.entriesOf lines)
    (last branches : Nat) :
    (e.growIf (declarationsOf (l.entriesOf lines)).getLast? last branches).item
      = (ofLines path l content lines).growItem last branches e.item := by
  rw [growItem, lastDeclaration?_ofLines]
  cases hlast : (declarationsOf (l.entriesOf lines)).getLast? with
  | none =>
      obtain ⟨item, declared⟩ := e
      cases declared with
      | none => rfl
      | some pair => rfl
  | some d =>
      have hiff := declaration?_eq_some_iff he (List.mem_of_getLast? hlast)
      obtain ⟨item, declared⟩ := e
      cases declared with
      | none => exact (if_neg fun hline => nomatch hiff.mpr hline).symm
      | some pair =>
          obtain ⟨c, d'⟩ := pair
          by_cases hd : some d = some d'
          · obtain rfl : d = d' := Option.some.inj hd
            rw [Entry.growIf_of_eq rfl]
            exact (if_pos (hiff.mp rfl)).symm
          · rw [Entry.growIf_of_ne hd]
            exact (if_neg fun hline => hd (hiff.mpr hline).symm).symm

end

/-- **THE CUT**: where no group of imports is open, a file can be cut between two lines. Its outline
    is that of the lines before the cut and, moved down, that of the lines behind it; but the last
    declaration before the cut goes on to the next one behind it. -/
theorem isJoin_ofText (path : String) (l : Language) (xs ys : List (List Char))
    (hxs : ∀ line ∈ xs, Unbroken line) (hys : ∀ line ∈ ys, Unbroken line)
    (hclosed : l.matchers.insideAfter false xs = false) :
    IsJoin l.matchers xs ys (ofText path l (textOf xs)) (ofText path l (textOf ys))
      (ofText path l (textOf xs ++ textOf ys)) := by
  have hboth : ∀ line ∈ xs ++ ys, Unbroken line := fun line hline =>
    (List.mem_append.mp hline).elim (hxs line) (hys line)
  rw [← textOf_append, ofText, ofText, ofText, lines_textOf hxs, lines_textOf hys,
    lines_textOf hboth]
  have hentries := entriesOf_append l ys hclosed
  refine ⟨?_, ?_, ?_, ?_, ?_, ?_⟩
  · exact (congrArg Nat.cast List.length_append).trans (Int.natCast_add ..)
  · exact (congrArg Nat.cast List.countP_append).trans (Int.natCast_add ..)
  · exact (congrArg (Option.map String.ofList) (scopeOf?_append ..)).trans Option.map_or
  · rw [imports_ofLines, imports_ofLines, imports_ofLines, l.hits_append ys hclosed,
      List.filterMap_append, List.filterMap_map, List.map_filterMap]
    exact congrArg _ (List.filterMap_congr fun hit _ => importOf?_shift l xs.length hit)
  · intro c
    rw [declared_ofLines, declared_ofLines, declared_ofLines, hentries, List.filterMap_append,
      List.filterMap_map, List.filterMap_map, leading_ofLines, List.map_filterMap,
      List.map_filterMap]
    refine congrArg₂ (· ++ ·) (List.filterMap_congr fun e _ => ?_)
      (List.filterMap_congr fun e _ => declared_shift c xs.length e)
    rw [Function.comp_apply, declared_growIf, ← lastDeclaration?_ofLines path l (textOf xs)]
    rfl
  · rw [items_ofLines, items_ofLines, items_ofLines, hentries, List.map_append, leading_ofLines,
      List.map_map, List.map_map, List.map_map, List.map_map]
    exact congrArg₂ (· ++ ·)
      (List.map_congr_left fun e he => item_growIf path (textOf xs) he ..) rfl

/-- A file up to the middle of a function. -/
def upToBody : List (List Char) :=
  ["import (", "\t\"fmt\"", ")", "func f() \x7b", "\tif x \x7b"].map String.toList

/-- The rest of that function, and another one. -/
def fromBody : List (List Char) :=
  ["\t\t// if y", "\t\tfor z \x7b", "\x7d", "func g() \x7b"].map String.toList

/-- A cut behind a group of imports and within a function: the loop behind it counts for `f`. -/
theorem isJoin_upToBody :
    (∀ line ∈ upToBody, Unbroken line) ∧ (∀ line ∈ fromBody, Unbroken line)
    ∧ Language.go.matchers.insideAfter false upToBody = false
    ∧ IsJoin Language.go.matchers upToBody fromBody (ofText "m.go" .go (textOf upToBody))
        (ofText "m.go" .go (textOf fromBody))
        (ofText "m.go" .go (textOf upToBody ++ textOf fromBody)) :=
  have hxs : ∀ line ∈ upToBody, Unbroken line := by decide
  have hys : ∀ line ∈ fromBody, Unbroken line := by decide
  have hclosed : Language.go.matchers.insideAfter false upToBody = false := by decide
  ⟨hxs, hys, hclosed, isJoin_ofText "m.go" .go upToBody fromBody hxs hys hclosed⟩

end SourceAtlas.Outline
