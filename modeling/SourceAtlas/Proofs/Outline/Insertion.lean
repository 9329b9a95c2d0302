import SourceAtlas.Proofs.Outline.Join
import SourceAtlas.Proofs.Pattern.Opening

/-! # A line that says nothing

    A blank line or a comment is read over wherever it stands (`Idle`).  Inside a
    group of imports and in the search for a namespace no one asks whether a line
    is a comment; but no comment of any language begins as a line does that
    counts there (`tellsComments`).  So putting such a line into a file only moves
    the entries behind it down, and makes the declaration longer in which it
    stands (`IsInsertion`). -/

namespace SourceAtlas

open Text

/-! ## Comments and blank lines -/

namespace Matchers

/-- The line is blank or a comment. -/
def Idle (m : Matchers) (raw : List Char) : Prop :=
  strip raw = [] ∨ m.isComment (strip raw) = true

instance (m : Matchers) : DecidablePred m.Idle := fun raw =>
  inferInstanceAs (Decidable (strip raw = [] ∨ m.isComment (strip raw) = true))

/-- A namespace line is not blank, and no comment begins as a namespace line, as an import of a
    group or as the end of a group. -/
def tellsComments (m : Matchers) : Bool :=
  m.namespaceLine.all (!·.mayPass) &&
  m.importBlock.all (!·.item.mayPass) &&
  m.commentMarks.all fun mark => mark.toList.head?.any fun c =>
    c != ')' && m.namespaceLine.all (!·.mayRead c) && m.importBlock.all (!·.item.mayRead c)

end Matchers

theorem Language.tellsComments (l : Language) : l.matchers.tellsComments = true := by
  cases l <;> decide

namespace Matchers

variable {m : Matchers} {raw : List Char}

theorem mayPass_namespaceLine (h : m.tellsComments = true) {p : Pattern}
    (hp : m.namespaceLine = some p) : p.mayPass = false := by
  rw [tellsComments, hp] at h
  simp only [Bool.and_eq_true, Option.all_some, Bool.not_eq_true'] at h
  exact h.1.1

/-- How a comment begins. -/
theorem exists_of_isComment (h : m.tellsComments = true) {line : List Char}
    (hline : m.isComment line = true) : ∃ c rest, line = c :: rest ∧ c ≠ ')'
      ∧ (∀ p, m.namespaceLine = some p → p.mayRead c = false)
      ∧ (∀ b, m.importBlock = some b → b.item.mayPass = false ∧ b.item.mayRead c = false) := by
  obtain ⟨mark, hmark, hstarts⟩ := List.any_eq_true.mp hline
  simp only [tellsComments, Bool.and_eq_true, List.all_eq_true] at h
  obtain ⟨⟨-, hpass⟩, hmarks⟩ := h
  have hbegins := hmarks mark hmark
  cases hchars : mark.toList with
  | nil => rw [hchars] at hbegins; exact absurd hbegins Bool.false_ne_true
  | cons c tail =>
      obtain ⟨rest, rfl⟩ := List.isPrefixOf_iff_prefix.mp hstarts
      rw [hchars] at hbegins ⊢
      simp only [List.head?_cons, Option.any_some, Bool.and_eq_true, bne_iff_ne] at hbegins
      obtain ⟨⟨hclose, hscope⟩, hitem⟩ := hbegins
      refine ⟨c, tail ++ rest, rfl, hclose, fun p hp => ?_, fun b hb => ?_⟩
      · rw [hp] at hscope
        exact (Bool.not_eq_true' _).mp hscope
      · rw [hb] at hitem hpass
        exact ⟨(Bool.not_eq_true' _).mp hpass, (Bool.not_eq_true' _).mp hitem⟩

/-- A line that says nothing leaves it open or closed whether a group of imports goes on. -/
theorem readLine_of_idle (h : m.tellsComments = true) (hraw : m.Idle raw) (inside : Bool) :
    m.readLine inside (strip raw) = (inside, none) := by
  rcases hraw with hblank | hcomment
  · rw [hblank]
    rfl
  · obtain ⟨c, rest, hline, hclose, -, hitem⟩ := exists_of_isComment h hcomment
    rw [readLine, hline, List.isEmpty_cons, if_neg Bool.false_ne_true]
    cases inside with
    | false => rw [if_neg Bool.false_ne_true, if_pos (hline ▸ hcomment)]
    | true =>
        have hsilent : m.blockItem? (c :: rest) = none := by
          cases hb : m.importBlock with
          | none => rw [blockItem?, hb]; rfl
          | some b =>
              obtain ⟨hpass, hread⟩ := hitem b hb
              rw [blockItem?, hb, Option.bind_some, Pattern.matchHead_cons hpass hread]
              rfl
        rw [if_pos rfl, hsilent, if_neg]
        exact fun hhead => hclose (Option.some.inj hhead)

/-- It gives no namespace. -/
theorem scopeOf?_of_idle (h : m.tellsComments = true) (hraw : m.Idle raw) :
    m.scopeOf? [raw] = none := by
  rw [scopeOf?]
  cases hp : m.namespaceLine with
  | none => rfl
  | some p =>
      have hpass := mayPass_namespaceLine h hp
      have hnone : p.matchHead (strip raw) = none := by
        rcases hraw with hblank | hcomment
        · rw [hblank, Pattern.matchHead_nil hpass]
        · obtain ⟨c, rest, hline, -, hscope, -⟩ := exists_of_isComment h hcomment
          rw [hline, Pattern.matchHead_cons hpass (hscope p hp)]
      rw [Option.bind_some, List.findSome?_singleton, hnone]
      rfl

theorem branchesOn_of_idle (hraw : m.Idle raw) : m.branchesOn raw = 0 := by
  rw [branchesOn, if_pos]
  rw [Bool.or_eq_true, List.isEmpty_iff]
  exact hraw

theorem branches_cons_of_idle (hraw : m.Idle raw) (rest : List (List Char)) :
    m.branches (raw :: rest) = m.branches rest := by
  rw [branches, branchesOn_of_idle hraw, Nat.zero_add]

theorem scan_cons_of_idle (h : m.tellsComments = true) (hraw : m.Idle raw) (inside : Bool)
    (line : Nat) (rest : List (List Char)) :
    m.scan inside line (raw :: rest) = m.scan inside (line + 1) rest := by
  rw [scan_cons, hit?, readLine_of_idle h hraw]
  rfl

end Matchers

/-! ## What becomes of the numbers of lines -/

/-- The number of a line after another one has been put in behind line `n`. -/
def pushed (n line : Nat) : Nat := if line ≤ n then line else line + 1

/-- The last line of a stretch of lines after another one has been put in behind line `n`: a stretch
    that goes on to line `n` takes the new one in. -/
def stretched (n last : Nat) : Nat := if last < n then last else last + 1

/-- The hit after a line has been put in behind line `n`; likewise for what the hits become. -/
def Hit.push (n : Nat) (h : Hit) : Hit := { h with line := pushed n h.line }

def Declaration.push (n : Nat) (d : Declaration) : Declaration :=
  { d with firstLine := pushed n d.firstLine, lastLine := stretched n d.lastLine }

def Import.push (n : Nat) (i : Import) : Import := { i with line := pushed n i.line }

/-- An import has one line only, which takes nothing in. -/
def Item.push (n : Nat) (i : Item) : Item :=
  { i with
    firstLine := pushed n i.firstLine
    lastLine :=
      if i.category? = some "import" then pushed n i.lastLine else stretched n i.lastLine }

def Entry.push (n : Nat) (e : Entry) : Entry :=
  ⟨e.item.push n, e.declared.map fun (c, d) => (c, d.push n)⟩

/-- The outline `after` is the outline `before` of a file into which a line has been put behind line
    `n`, and which says nothing. -/
structure Outline.IsInsertion (n : Nat) (comment : Bool) (before after : Outline) : Prop where
  path : after.path = before.path
  language : after.language = before.language
  lineCount : after.lineCount = before.lineCount + 1
  commentCount : after.commentCount = before.commentCount + if comment then 1 else 0
  scope : after.scope = before.scope
  degraded : after.degraded = before.degraded
  imports : after.imports = before.imports.map (Import.push n)
  declared : ∀ c : Category, after.declared c = (before.declared c).map (Declaration.push n)
  items : after.items = before.items.map (Item.push n)

variable {n : Nat}

theorem pushed_of_le {line : Nat} (h : line ≤ n) : pushed n line = line := if_pos h

theorem pushed_of_lt {line : Nat} (h : n < line) : pushed n line = line + 1 :=
  if_neg (Nat.not_le_of_lt h)

theorem stretched_of_lt {last : Nat} (h : last < n) : stretched n last = last := if_pos h

theorem stretched_of_le {last : Nat} (h : n ≤ last) : stretched n last = last + 1 :=
  if_neg (Nat.not_lt_of_le h)

/-- The line in front of a line. -/
theorem pushed_sub_one {line : Nat} (h : 1 ≤ line) :
    pushed n line - 1 = stretched n (line - 1) := by
  unfold pushed stretched
  split <;> split <;> omega

/-- A stretch of lines is not turned round. -/
theorem max_stretched_pushed {first last : Nat} (h : first ≤ last) :
    max (stretched n last) (pushed n first) = stretched n (max last first) := by
  rw [Nat.max_eq_left h]
  refine Nat.max_eq_left ?_
  unfold pushed stretched
  split <;> split <;> omega

/-! ## The hits -/

namespace Language

variable (l : Language) (xs ys : List (List Char)) {raw : List Char}

/-- The hits stay the same, those behind the line further down. -/
theorem hits_insert (hraw : l.matchers.Idle raw) :
    l.hits (xs ++ raw :: ys) = (l.hits (xs ++ ys)).map (Hit.push xs.length) := by
  rw [hits, hits]
  split
  · rw [Matchers.scan_append, Matchers.scan_append, Matchers.scan_cons_of_idle l.tellsComments hraw,
      Matchers.scan_shift, List.map_append]
    refine congrArg₂ (· ++ ·) ?_ (List.map_congr_left fun hit hhit => ?_)
    · refine ((List.map_congr_left fun hit hhit => ?_).trans (List.map_id _)).symm
      have hlt := Matchers.line_lt_of_mem_scan hhit
      rw [Hit.push, pushed_of_le (by omega)]
      rfl
    · have hle := Matchers.le_line_of_mem_scan hhit
      rw [Hit.push, pushed_of_lt (by omega)]
      rfl
  · rfl

end Language

theorem nextDeclaration?_push (n : Nat) (hits : List Hit) :
    nextDeclaration? (hits.map (Hit.push n)) = (nextDeclaration? hits).map (pushed n) := by
  induction hits with
  | nil => rfl
  | cons hit rest ih =>
      obtain ⟨line, text, finding⟩ := hit
      cases finding with
      | declares => rfl
      | imports => exact ih

theorem endBefore_push (n : Nat) {last : Nat} (hlast : n ≤ last) {hits : List Hit}
    (h : ∀ hit ∈ hits, 1 ≤ hit.line) :
    endBefore (last + 1) (hits.map (Hit.push n)) = stretched n (endBefore last hits) := by
  have hpush := nextDeclaration?_push n hits
  cases hn : nextDeclaration? hits with
  | none =>
      rw [hn] at hpush
      rw [endBefore_of_none hn, endBefore_of_none hpush, stretched_of_le hlast]
  | some line =>
      obtain ⟨hit, hhit, rfl⟩ := exists_of_nextDeclaration? hn
      rw [hn, Option.map_some] at hpush
      rw [endBefore_of_some hn, endBefore_of_some hpush, pushed_sub_one (h hit hhit)]

/-! ## The entries -/

namespace Matchers

variable {m : Matchers} (xs ys : List (List Char)) {raw : List Char}

/-- The new line brings no branches. -/
theorem branches_insert (hraw : m.Idle raw) {first last : Nat} (h : first ≤ last) :
    m.branches (linesBetween (pushed xs.length first) (stretched xs.length last) (xs ++ raw :: ys))
      = m.branches (linesBetween first last (xs ++ ys)) := by
  rcases Nat.lt_or_ge last xs.length with hlast | hlast
  · -- The stretch ends in front of the new line.
    have hwithin := Nat.le_of_lt hlast
    rw [pushed_of_le (Nat.le_trans h hwithin), stretched_of_lt hlast,
      linesBetween_append_left _ _ hwithin, linesBetween_append_left _ _ hwithin]
  · rw [stretched_of_le hlast]
    rcases Nat.lt_or_ge xs.length first with hfirst | hfirst
    · -- It starts behind it.
      obtain ⟨i, rfl⟩ := Nat.exists_eq_add_of_le' (Nat.le_of_lt hfirst)
      obtain ⟨j, rfl⟩ := Nat.exists_eq_add_of_le' hlast
      have hi : 1 ≤ i := by omega
      have hbehind : linesBetween (i + (xs ++ [raw]).length) (j + (xs ++ [raw]).length)
          ((xs ++ [raw]) ++ ys) = linesBetween i j ys := linesBetween_append_right ys j hi
      rw [List.length_append, List.length_singleton, ← Nat.add_assoc, ← Nat.add_assoc,
        List.append_assoc] at hbehind
      rw [pushed_of_lt hfirst, linesBetween_append_right ys j hi]
      exact congrArg m.branches hbehind
    · -- It goes across.
      rw [pushed_of_le hfirst, linesBetween_append_across _ hfirst hlast,
        linesBetween_append_across _ hfirst (Nat.le_succ_of_le hlast), Nat.succ_sub hlast,
        List.take_succ_cons, branches_append, branches_append, branches_cons_of_idle hraw]

theorem declarationOn_insert (hraw : m.Idle raw) {line last : Nat} (h : line ≤ last)
    (name : List Char) :
    m.declarationOn (xs ++ raw :: ys) (pushed xs.length line) name (stretched xs.length last)
      = (m.declarationOn (xs ++ ys) line name last).push xs.length := by
  rw [declarationOn, max_stretched_pushed h, branches_insert xs ys hraw (Nat.le_max_right ..)]
  rfl

theorem entryOf_insert (hraw : m.Idle raw) {hit : Hit} {last : Nat} (h : hit.line ≤ last) :
    m.entryOf (xs ++ raw :: ys) (hit.push xs.length) (stretched xs.length last)
      = (m.entryOf (xs ++ ys) hit last).push xs.length := by
  obtain ⟨line, text, finding⟩ := hit
  cases finding with
  | declares category name =>
      rw [Hit.push, entryOf_declares, entryOf_declares, declarationOn_insert xs ys hraw h,
        Entry.push, Item.push, Item.category?_ofDeclaration, if_neg]
      · rfl
      · exact fun hword => category.word_ne_import (Option.some.inj hword)
  | imports target clause => rfl

theorem entriesUntil_insert (hraw : m.Idle raw) {last : Nat} (hlast : xs.length ≤ last)
    {hits : List Hit} (hord : hits.Pairwise (·.line < ·.line)) (hpos : ∀ hit ∈ hits, 1 ≤ hit.line)
    (hle : ∀ hit ∈ hits, hit.line ≤ last) :
    m.entriesUntil (xs ++ raw :: ys) (last + 1) (hits.map (Hit.push xs.length))
      = (m.entriesUntil (xs ++ ys) last hits).map (Entry.push xs.length) := by
  induction hits with
  | nil => rfl
  | cons hit rest ih =>
      obtain ⟨hlater, hrest⟩ := List.pairwise_cons.mp hord
      have hposrest : ∀ hit' ∈ rest, 1 ≤ hit'.line :=
        fun hit' hhit' => hpos hit' (List.mem_cons_of_mem _ hhit')
      have hlerest : ∀ hit' ∈ rest, hit'.line ≤ last :=
        fun hit' hhit' => hle hit' (List.mem_cons_of_mem _ hhit')
      have hend : hit.line ≤ endBefore last rest := by
        cases hn : nextDeclaration? rest with
        | none =>
            rw [endBefore_of_none hn]
            exact hle hit (List.mem_cons_self ..)
        | some next =>
            obtain ⟨hit', hhit', rfl⟩ := exists_of_nextDeclaration? hn
            rw [endBefore_of_some hn]
            exact Nat.le_sub_one_of_lt (hlater hit' hhit')
      rw [List.map_cons, entriesUntil, entriesUntil, List.map_cons,
        endBefore_push _ hlast hposrest, entryOf_insert xs ys hraw hend, ih hrest hposrest hlerest]

end Matchers

theorem Language.entriesOf_insert (l : Language) (xs ys : List (List Char)) {raw : List Char}
    (hraw : l.matchers.Idle raw) :
    l.entriesOf (xs ++ raw :: ys) = (l.entriesOf (xs ++ ys)).map (Entry.push xs.length) := by
  have hlength : (xs ++ raw :: ys).length = (xs ++ ys).length + 1 := by
    rw [List.length_append, List.length_append, List.length_cons, Nat.add_assoc]
  rw [entriesOf, entriesOf, l.hits_insert xs ys hraw, hlength]
  exact Matchers.entriesUntil_insert xs ys hraw (by rw [List.length_append]; omega)
    (l.hits_inOrder _) (fun _ hh => l.one_le_line_of_mem_hits _ hh)
    (fun _ hh => l.line_le_of_mem_hits _ hh)

/-! ## The outline -/

namespace Outline

theorem declaredAs?_push (c : Category) (n : Nat) (e : Entry) :
    (e.push n).declaredAs? c = (e.declaredAs? c).map (Declaration.push n) := by
  obtain ⟨item, declared⟩ := e
  cases declared with
  | none => rfl
  | some pair =>
      obtain ⟨found, d⟩ := pair
      show (if found = c then some (d.push n) else none)
        = (if found = c then some d else none).map (Declaration.push n)
      split <;> rfl

theorem importOf?_push (l : Language) (n : Nat) (hit : Hit) :
    importOf? l (hit.push n) = (importOf? l hit).map (Import.push n) := by
  obtain ⟨line, text, finding⟩ := hit
  cases finding with
  | declares => rfl
  | imports => rfl

theorem comments_insert (m : Matchers) (xs ys : List (List Char)) (raw : List Char) :
    m.comments (xs ++ raw :: ys)
      = m.comments (xs ++ ys) + if m.isComment (strip raw) then 1 else 0 := by
  rw [Matchers.comments, Matchers.comments, List.countP_append, List.countP_append,
    List.countP_cons, Nat.add_assoc]

theorem scopeOf?_insert {m : Matchers} (h : m.tellsComments = true) (xs ys : List (List Char))
    {raw : List Char} (hraw : m.Idle raw) :
    m.scopeOf? (xs ++ raw :: ys) = m.scopeOf? (xs ++ ys) := by
  rw [← List.singleton_append, scopeOf?_append, scopeOf?_append m [raw], scopeOf?_append,
    m.scopeOf?_of_idle h hraw, Option.none_or]

/-- A line that says nothing, put into a file. -/
theorem isInsertion_ofLines (path : String) (l : Language) (content content' : String)
    (xs ys : List (List Char)) {raw : List Char} (hraw : l.matchers.Idle raw) :
    IsInsertion xs.length (l.matchers.isComment (strip raw))
      (ofLines path l content (xs ++ ys)) (ofLines path l content' (xs ++ raw :: ys)) where
  path := rfl
  language := rfl
  lineCount := by
    show (((xs ++ raw :: ys).length : Nat) : Int) = ((xs ++ ys).length : Nat) + 1
    rw [List.length_append, List.length_append, List.length_cons]
    rfl
  commentCount := by
    show ((l.matchers.comments (xs ++ raw :: ys) : Nat) : Int) = _
    rw [comments_insert]
    split <;> rfl
  scope := congrArg (Option.map String.ofList) (scopeOf?_insert l.tellsComments xs ys hraw)
  degraded := rfl
  imports := by
    rw [imports_ofLines, imports_ofLines, l.hits_insert xs ys hraw, List.filterMap_map,
      List.map_filterMap]
    exact List.filterMap_congr fun hit _ => importOf?_push l xs.length hit
  declared c := by
    rw [declared_ofLines, declared_ofLines, l.entriesOf_insert xs ys hraw, List.filterMap_map,
      List.map_filterMap]
    exact List.filterMap_congr fun e _ => declaredAs?_push c xs.length e
  items := by
    rw [items_ofLines, items_ofLines, l.entriesOf_insert xs ys hraw, List.map_map, List.map_map]
    rfl

end Outline

end SourceAtlas
