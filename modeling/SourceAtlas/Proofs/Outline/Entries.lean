import SourceAtlas.Proofs.Outline.Scan

/-! # From hits to entries

    A declaration has the lines up to the next one.  Of the hits after it, its
    entry depends only on where that one starts (`endBefore`).  So the entries of
    a file can be cut anywhere: the hits of the first part only have to know
    where the last declaration among them ends (`entriesUntil_append`).

    Every entry shows what it stands for: `Item.ofDeclaration` and
    `Item.ofImport` say how. -/

namespace SourceAtlas

open Text

/-! ## Where a declaration ends -/

/-- The line before the next declaration, or `last` if no declaration follows. -/
def endBefore (last : Nat) (hits : List Hit) : Nat :=
  ((nextDeclaration? hits).map (· - 1)).getD last

theorem endBefore_of_none {hits : List Hit} (h : nextDeclaration? hits = none) (last : Nat) :
    endBefore last hits = last := by
  rw [endBefore, h]
  rfl

theorem endBefore_of_some {hits : List Hit} {line : Nat} (h : nextDeclaration? hits = some line)
    (last : Nat) : endBefore last hits = line - 1 := by
  rw [endBefore, h]
  rfl

theorem nextDeclaration?_append (xs ys : List Hit) :
    nextDeclaration? (xs ++ ys) = (nextDeclaration? xs).or (nextDeclaration? ys) := by
  induction xs with
  | nil => rfl
  | cons h rest ih =>
      obtain ⟨line, text, finding⟩ := h
      cases finding with
      | declares => rfl
      | imports => exact ih

theorem endBefore_append (last : Nat) (xs ys : List Hit) :
    endBefore last (xs ++ ys) = endBefore (endBefore last ys) xs := by
  rw [endBefore, endBefore, nextDeclaration?_append]
  cases nextDeclaration? xs with
  | none => rfl
  | some line => rfl

/-- The next declaration is one of the hits. -/
theorem exists_of_nextDeclaration? {hits : List Hit} {line : Nat}
    (h : nextDeclaration? hits = some line) : ∃ hit ∈ hits, hit.line = line := by
  induction hits with
  | nil => exact nomatch h
  | cons hit rest ih =>
      obtain ⟨start, text, finding⟩ := hit
      cases finding with
      | declares => exact ⟨_, List.mem_cons_self .., Option.some.inj h⟩
      | imports =>
          obtain ⟨found, hfound, hline⟩ := ih h
          exact ⟨found, List.mem_cons_of_mem _ hfound, hline⟩

/-! ## What an entry holds -/

/-- The category of an outline entry. -/
def Item.category? (i : Item) : Option String := i.attributes.lookup "category"

/-- The entry of a declaration. -/
def Item.ofDeclaration (kind text : String) (category : Category) (d : Declaration) : Item where
  kind := kind
  text := text
  firstLine := d.firstLine
  lastLine := d.lastLine
  attributes :=
    [("name", d.name), ("category", category.word), ("complexity", integerText d.complexity)]

/-- The entry of an import. -/
def Item.ofImport (kind text target : String) (line : Nat) : Item where
  kind := kind
  text := text
  firstLine := line
  lastLine := line
  attributes := [("module", target), ("category", "import")]

@[simp] theorem Item.category?_ofDeclaration (kind text : String) (category : Category)
    (d : Declaration) : (ofDeclaration kind text category d).category? = some category.word := rfl

@[simp] theorem Item.category?_ofImport (kind text target : String) (line : Nat) :
    (ofImport kind text target line).category? = some "import" := rfl

theorem Category.word_inj {c d : Category} : c.word = d.word ↔ c = d := by
  cases c <;> cases d <;> decide

theorem Category.word_ne_import (c : Category) : c.word ≠ "import" := by
  cases c <;> decide

theorem Entry.declaredAs?_mk_some (item : Item) (found category : Category) (d : Declaration) :
    (Entry.mk item (some (found, d))).declaredAs? category
      = if found = category then some d else none := rfl

/-- The declaration that an entry stands for, if any. -/
def Entry.declaration? (e : Entry) : Option Declaration := e.declared.map (·.2)

/-- The declarations among entries, in order. -/
def declarationsOf (es : List Entry) : List Declaration := es.filterMap Entry.declaration?

theorem declarationsOf_cons (item : Item) (c : Category) (d : Declaration) (es : List Entry) :
    declarationsOf (⟨item, some (c, d)⟩ :: es) = d :: declarationsOf es := rfl

/-- A declaration is of one of the two categories. -/
theorem perm_declarationsOf (es : List Entry) :
    (es.filterMap (·.declaredAs? .type) ++ es.filterMap (·.declaredAs? .function)).Perm
      (declarationsOf es) := by
  induction es with
  | nil => exact List.Perm.nil
  | cons e rest ih =>
      obtain ⟨item, declared⟩ := e
      cases declared with
      | none => exact ih
      | some pair =>
          obtain ⟨category, d⟩ := pair
          cases category with
          | type => exact ih.cons d
          | function => exact List.perm_middle.trans (ih.cons d)

namespace Matchers

variable (m : Matchers) (lines : List (List Char))

/-- The declaration that starts on a line and ends at the line `last` or where it starts. -/
def declarationOn (line : Nat) (name : List Char) (last : Nat) : Declaration where
  name := .ofList name
  firstLine := line
  lastLine := max last line
  complexity := 1 + (m.branches (linesBetween line (max last line) lines) : Nat)

theorem entryOf_declares (line : Nat) (text : List Char) (category : Category)
    (name : List Char) (last : Nat) :
    m.entryOf lines ⟨line, text, .declares category name⟩ last
      = ⟨.ofDeclaration (m.kindOf category) (.ofList text) category
          (m.declarationOn lines line name last),
        some (category, m.declarationOn lines line name last)⟩ := rfl

theorem entryOf_imports (line : Nat) (text target : List Char) (clause : Option (List Char))
    (last : Nat) :
    m.entryOf lines ⟨line, text, .imports target clause⟩ last
      = ⟨.ofImport m.importKind (.ofList text) (.ofList (strip target)) line, none⟩ := rfl

/-! ## The entries of hits -/

/-- The entries of hits of which the last declaration ends at the line `last`. -/
def entriesUntil (last : Nat) : List Hit → List Entry
  | [] => []
  | hit :: rest => m.entryOf lines hit (endBefore last rest) :: entriesUntil last rest

theorem entries_eq_entriesUntil (hits : List Hit) :
    m.entries lines hits = m.entriesUntil lines lines.length hits := by
  induction hits with
  | nil => rfl
  | cons hit rest ih =>
      rw [entries, ih]
      rfl

theorem entriesUntil_append (last : Nat) (xs ys : List Hit) :
    m.entriesUntil lines last (xs ++ ys)
      = m.entriesUntil lines (endBefore last ys) xs ++ m.entriesUntil lines last ys := by
  induction xs with
  | nil => rfl
  | cons hit rest ih => rw [List.cons_append, entriesUntil, ih, endBefore_append, entriesUntil]; rfl

/-- Every entry stands for one of the hits. -/
theorem exists_of_mem_entriesUntil {last : Nat} {hits : List Hit} {e : Entry}
    (he : e ∈ m.entriesUntil lines last hits) : ∃ hit ∈ hits, ∃ n, e = m.entryOf lines hit n := by
  induction hits with
  | nil => exact nomatch he
  | cons hit rest ih =>
      rcases List.mem_cons.mp he with rfl | he
      · exact ⟨hit, List.mem_cons_self .., _, rfl⟩
      · obtain ⟨found, hfound, n, rfl⟩ := ih he
        exact ⟨found, List.mem_cons_of_mem _ hfound, n, rfl⟩

variable {m lines}

/-- An entry starts on the line of its hit, and so does its declaration. -/
theorem firstLine_entryOf (hit : Hit) (last : Nat) :
    (m.entryOf lines hit last).item.firstLine = hit.line := by
  obtain ⟨line, text, finding⟩ := hit
  cases finding with
  | declares => rfl
  | imports => rfl

theorem text_entryOf (hit : Hit) (last : Nat) :
    (m.entryOf lines hit last).item.text = .ofList hit.text := by
  obtain ⟨line, text, finding⟩ := hit
  cases finding with
  | declares => rfl
  | imports => rfl

theorem firstLines_entriesUntil (last : Nat) (hits : List Hit) :
    (m.entriesUntil lines last hits).map (·.item.firstLine) = hits.map (·.line) := by
  induction hits with
  | nil => rfl
  | cons hit rest ih => rw [entriesUntil, List.map_cons, List.map_cons, firstLine_entryOf, ih]

theorem firstLine_of_declaration? {hit : Hit} {last : Nat} {d : Declaration}
    (hd : (m.entryOf lines hit last).declaration? = some d) : d.firstLine = hit.line := by
  obtain ⟨line, text, finding⟩ := hit
  cases finding with
  | declares => rw [← Option.some.inj hd]
  | imports => exact nomatch hd

/-- A complexity is one more than a number of branches. -/
theorem one_le_complexity {hit : Hit} {last : Nat} {d : Declaration}
    (hd : (m.entryOf lines hit last).declaration? = some d) : 1 ≤ d.complexity := by
  obtain ⟨line, text, finding⟩ := hit
  cases finding with
  | declares =>
      rw [← Option.some.inj hd]
      exact Int.le_add_of_nonneg_right (Int.natCast_nonneg _)
  | imports => exact nomatch hd

theorem exists_of_mem_declarationsOf {last : Nat} {hits : List Hit} {d : Declaration}
    (hd : d ∈ declarationsOf (m.entriesUntil lines last hits)) :
    ∃ hit ∈ hits, d.firstLine = hit.line := by
  obtain ⟨e, he, hd⟩ := List.mem_filterMap.mp hd
  obtain ⟨hit, hhit, n, rfl⟩ := m.exists_of_mem_entriesUntil lines he
  exact ⟨hit, hhit, firstLine_of_declaration? hd⟩

/-- The first declaration starts where the next declaration is found. -/
theorem head?_declarationsOf (last : Nat) (hits : List Hit) :
    (declarationsOf (m.entriesUntil lines last hits)).head?.map (·.firstLine)
      = nextDeclaration? hits := by
  induction hits with
  | nil => rfl
  | cons hit rest ih =>
      obtain ⟨line, text, finding⟩ := hit
      cases finding with
      | declares => rfl
      | imports => exact ih

theorem declarationsOf_eq_nil {last : Nat} {hits : List Hit}
    (h : nextDeclaration? hits = none) : declarationsOf (m.entriesUntil lines last hits) = [] := by
  rw [← @head?_declarationsOf m lines last, Option.map_eq_none_iff] at h
  exact List.head?_eq_none_iff.mp h

/-- The declarations come in the order of their lines. -/
theorem declarationsOf_inOrder {last : Nat} {hits : List Hit}
    (h : hits.Pairwise (·.line < ·.line)) :
    (declarationsOf (m.entriesUntil lines last hits)).Pairwise (·.firstLine < ·.firstLine) := by
  induction hits with
  | nil => exact List.Pairwise.nil
  | cons hit rest ih =>
      obtain ⟨hlater, hrest⟩ := List.pairwise_cons.mp h
      rw [entriesUntil, declarationsOf, List.filterMap_cons]
      cases hd : (m.entryOf lines hit (endBefore last rest)).declaration? with
      | none => exact ih hrest
      | some d =>
          refine List.pairwise_cons.mpr ⟨fun later hd' => ?_, ih hrest⟩
          obtain ⟨hit', hhit', hline⟩ := exists_of_mem_declarationsOf hd'
          rw [firstLine_of_declaration? hd, hline]
          exact hlater hit' hhit'

end Matchers

/-! ## The entries of a file -/

/-- The entries of a file with these lines. -/
def Language.entriesOf (l : Language) (lines : List (List Char)) : List Entry :=
  l.matchers.entriesUntil lines lines.length (l.hits lines)

namespace Outline

variable (path : String) (l : Language) (content : String) (lines : List (List Char))

theorem items_ofLines :
    (ofLines path l content lines).items = (l.entriesOf lines).map (·.item) := by
  rw [Language.entriesOf, ← Matchers.entries_eq_entriesUntil]
  rfl

theorem types_ofLines :
    (ofLines path l content lines).types = (l.entriesOf lines).filterMap (·.declaredAs? .type) := by
  rw [Language.entriesOf, ← Matchers.entries_eq_entriesUntil]
  rfl

theorem functions_ofLines :
    (ofLines path l content lines).functions
      = (l.entriesOf lines).filterMap (·.declaredAs? .function) := by
  rw [Language.entriesOf, ← Matchers.entries_eq_entriesUntil]
  rfl

theorem imports_ofLines :
    (ofLines path l content lines).imports = (l.hits lines).filterMap (importOf? l) := rfl

end Outline

end SourceAtlas
