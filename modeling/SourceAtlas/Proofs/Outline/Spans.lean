import Mathlib.Data.List.Forall2
import Mathlib.Data.List.Nodup
import SourceAtlas.Proofs.Outline.Entries

/-! # An outline agrees with itself and with its file

    The entries of an outline, its types, its functions and its imports are all
    read off the same hits, one after the other.  Hence they correspond
    (`forall₂_declared`, `forall₂_imported`), and the declarations follow one
    another without a gap from the first one to the end of the file
    (`tiles_declarationsOf`).  `isOf_ofText` says so of every text. -/

namespace SourceAtlas

open Text

/-! ## What agrees with what -/

/-- The entry shows the declaration. -/
structure Item.Shows (i : Item) (d : Declaration) : Prop where
  name : i.attributes.lookup "name" = some d.name
  firstLine : i.firstLine = d.firstLine
  lastLine : i.lastLine = d.lastLine
  complexity : i.attributes.lookup "complexity" = some (integerText d.complexity)

/-- The entry shows the import. -/
structure Item.ShowsImport (i : Item) (j : Import) : Prop where
  target : i.attributes.lookup "module" = some j.target
  firstLine : i.firstLine = j.line
  lastLine : i.lastLine = j.line

/-- The declarations are not empty, the first one starts on the line `first`, each ends on the line
    before the next one, and the last one ends on the line `last`. -/
inductive Tiles : (first : Nat) → List Declaration → (last : Nat) → Prop where
  | last {d : Declaration} : d.firstLine ≤ d.lastLine → Tiles d.firstLine [d] d.lastLine
  | cons {d : Declaration} {rest : List Declaration} {last : Nat} :
      d.firstLine ≤ d.lastLine → Tiles (d.lastLine + 1) rest last →
      Tiles d.firstLine (d :: rest) last

namespace Outline

/-- The types or the functions of a file. -/
def declared (o : Outline) : Category → List Declaration
  | .type => o.types
  | .function => o.functions

/-- The types and the functions of a file. -/
def declarations (o : Outline) : List Declaration := o.types ++ o.functions

/-- The entries of one category. -/
def itemsIn (o : Outline) (category : String) : List Item :=
  o.items.filter fun i => i.category? = some category

/-- An outline of these lines, all parts of which agree. -/
structure IsOf (o : Outline) (lines : List (List Char)) : Prop where
  lineCount : o.lineCount = lines.length
  commentCount : 0 ≤ o.commentCount ∧ o.commentCount ≤ o.lineCount
  /-- The entries come in the order of the lines on which they start. -/
  inOrder : o.items.Pairwise (·.firstLine < ·.firstLine)
  /-- No line has two entries. -/
  onePerLine : ∀ line, o.items.countP (·.firstLine = line) ≤ 1
  /-- Every entry has the text of its line. -/
  onLine : ∀ i ∈ o.items, ∃ n raw, i.firstLine = n + 1 ∧ lines[n]? = some raw
    ∧ i.text = .ofList (strip raw)
  categories : ∀ i ∈ o.items, i.category? ∈ ["type", "function", "import"].map some
  /-- The entries of types and of functions show the types and the functions. -/
  declared : ∀ c : Category, List.Forall₂ Item.Shows (o.itemsIn c.word) (o.declared c)
  /-- The entries of imports show the imports. -/
  imported : List.Forall₂ Item.ShowsImport (o.itemsIn "import") o.imports
  /-- In the order of their lines, the declarations follow one another up to the last line. -/
  tiles : o.declarations = [] ∨ ∃ ds first, ds.Perm o.declarations ∧ Tiles first ds lines.length
  /-- From any declaration on, every line belongs to exactly one. -/
  covered : ∀ d ∈ o.declarations, ∀ line, d.firstLine ≤ line → line ≤ lines.length →
    o.declarations.countP (fun e => e.firstLine ≤ line ∧ line ≤ e.lastLine) = 1
  complexity : ∀ d ∈ o.declarations, 1 ≤ d.complexity

end Outline

/-! ## Spans -/

namespace Tiles

variable {first last : Nat} {ds : List Declaration}

theorem first_le (h : Tiles first ds last) : first ≤ last := by
  induction h with
  | last hd => exact hd
  | cons hd _ ih => omega

/-- Each line from the first to the last one belongs to one declaration, and no other line does. -/
theorem countP_eq (h : Tiles first ds last) (line : Nat) :
    ds.countP (fun d => d.firstLine ≤ line ∧ line ≤ d.lastLine)
      = if first ≤ line ∧ line ≤ last then 1 else 0 := by
  induction h with
  | @last d hd =>
      rw [List.countP_singleton]
      simp only [decide_eq_true_eq]
  | @cons d rest last hd hrest ih =>
      have hle := hrest.first_le
      rw [List.countP_cons, ih]
      simp only [decide_eq_true_eq]
      split <;> split <;> split <;> omega

theorem le_of_mem (h : Tiles first ds last) {d : Declaration} (hd : d ∈ ds) :
    first ≤ d.firstLine := by
  induction h with
  | last => exact Nat.le_of_eq (congrArg _ (List.mem_singleton.mp hd).symm)
  | @cons d' rest last hle hrest ih =>
      rcases List.mem_cons.mp hd with rfl | hd
      · exact Nat.le_refl _
      · exact Nat.le_trans (Nat.le_trans hle (Nat.le_succ _)) (ih hd)

end Tiles

namespace Matchers

variable {m : Matchers} {lines : List (List Char)}

/-- The declarations among hits follow one another without a gap. -/
theorem tiles_declarationsOf {last : Nat} {hits : List Hit} {first : Nat}
    (hord : hits.Pairwise (·.line < ·.line)) (hle : ∀ hit ∈ hits, hit.line ≤ last)
    (hfirst : nextDeclaration? hits = some first) :
    Tiles first (declarationsOf (m.entriesUntil lines last hits)) last := by
  induction hits generalizing first with
  | nil => exact nomatch hfirst
  | cons hit rest ih =>
      obtain ⟨hlater, hrest⟩ := List.pairwise_cons.mp hord
      have hlerest : ∀ hit' ∈ rest, hit'.line ≤ last :=
        fun hit' hhit' => hle hit' (List.mem_cons_of_mem _ hhit')
      obtain ⟨line, text, finding⟩ := hit
      cases finding with
      | imports => exact ih hrest hlerest hfirst
      | declares category name =>
          obtain rfl : line = first := Option.some.inj hfirst
          show Tiles (m.declarationOn lines line name (endBefore last rest)).firstLine
            (m.declarationOn lines line name (endBefore last rest)
              :: declarationsOf (m.entriesUntil lines last rest)) last
          cases hn : nextDeclaration? rest with
          | none =>
              have hend :
                  (m.declarationOn lines line name (endBefore last rest)).lastLine = last := by
                rw [endBefore_of_none hn]
                exact Nat.max_eq_left (hle _ (List.mem_cons_self ..))
              have htiles := Tiles.last (d := m.declarationOn lines line name (endBefore last rest))
                (Nat.le_max_right ..)
              rw [declarationsOf_eq_nil hn]
              rw [hend] at htiles
              exact htiles
          | some next =>
              obtain ⟨hit', hhit', rfl⟩ := exists_of_nextDeclaration? hn
              have hlt : line < hit'.line := hlater hit' hhit'
              have hend : max (endBefore last rest) line + 1 = hit'.line := by
                rw [endBefore_of_some hn]
                omega
              exact Tiles.cons (Nat.le_max_right ..) (hend ▸ ih hrest hlerest hn)

/-! ## Entries and what they show -/

theorem shows_ofDeclaration (kind text : String) (category : Category) (d : Declaration) :
    (Item.ofDeclaration kind text category d).Shows d where
  name := rfl
  firstLine := rfl
  lastLine := rfl
  complexity := rfl

/-- The entries of a category show the declarations of that category. -/
theorem forall₂_declared (category : Category) (last : Nat) (hits : List Hit) :
    List.Forall₂ Item.Shows
      (((m.entriesUntil lines last hits).map (·.item)).filter
        fun i => i.category? = some category.word)
      ((m.entriesUntil lines last hits).filterMap (·.declaredAs? category)) := by
  induction hits with
  | nil => exact List.Forall₂.nil
  | cons hit rest ih =>
      obtain ⟨line, text, finding⟩ := hit
      rw [entriesUntil, List.map_cons, List.filter_cons, List.filterMap_cons]
      cases finding with
      | imports target clause =>
          rw [entryOf_imports, if_neg]
          · exact ih
          · rw [Item.category?_ofImport, decide_eq_true_eq, Option.some_inj]
            exact category.word_ne_import.symm
      | declares found name =>
          rw [entryOf_declares, Entry.declaredAs?_mk_some]
          by_cases hc : found = category
          · subst hc
            rw [if_pos (decide_eq_true (Item.category?_ofDeclaration ..)), if_pos rfl]
            exact List.Forall₂.cons (shows_ofDeclaration ..) ih
          · have hword : found.word ≠ category.word := fun h => hc (Category.word_inj.mp h)
            rw [if_neg (by simpa using hword), if_neg hc]
            exact ih

/-- The entries of imports show the imports. -/
theorem forall₂_imported (l : Language) (last : Nat) (hits : List Hit) :
    List.Forall₂ Item.ShowsImport
      (((m.entriesUntil lines last hits).map (·.item)).filter
        fun i => i.category? = some "import")
      (hits.filterMap (importOf? l)) := by
  induction hits with
  | nil => exact List.Forall₂.nil
  | cons hit rest ih =>
      obtain ⟨line, text, finding⟩ := hit
      rw [entriesUntil, List.map_cons, List.filter_cons]
      cases finding with
      | imports target clause =>
          exact List.Forall₂.cons ⟨rfl, rfl, rfl⟩ ih
      | declares found name =>
          rw [entryOf_declares, if_neg]
          · exact ih
          · rw [Item.category?_ofDeclaration, decide_eq_true_eq, Option.some_inj]
            exact found.word_ne_import

theorem category?_entryOf (hit : Hit) (last : Nat) :
    (m.entryOf lines hit last).item.category? ∈ ["type", "function", "import"].map some := by
  obtain ⟨line, text, finding⟩ := hit
  cases finding with
  | declares category name =>
      rw [entryOf_declares, Item.category?_ofDeclaration]
      cases category <;> decide
  | imports target clause =>
      rw [entryOf_imports, Item.category?_ofImport]
      decide

end Matchers

/-! ## The outline of a text -/

namespace Outline

variable (path : String) (l : Language) (content : String) (lines : List (List Char))

theorem perm_declarations_ofLines :
    (declarationsOf (l.entriesOf lines)).Perm (ofLines path l content lines).declarations := by
  rw [declarations, types_ofLines, functions_ofLines]
  exact (perm_declarationsOf _).symm

theorem declared_ofLines (category : Category) :
    (ofLines path l content lines).declared category
      = (l.entriesOf lines).filterMap (·.declaredAs? category) := by
  cases category with
  | type => exact types_ofLines ..
  | function => exact functions_ofLines ..

theorem tiles_ofLines :
    declarationsOf (l.entriesOf lines) = []
      ∨ ∃ first, Tiles first (declarationsOf (l.entriesOf lines)) lines.length := by
  cases hn : nextDeclaration? (l.hits lines) with
  | none => exact Or.inl (Matchers.declarationsOf_eq_nil hn)
  | some first =>
      exact Or.inr ⟨first, Matchers.tiles_declarationsOf (l.hits_inOrder lines)
        (fun _ hh => l.line_le_of_mem_hits lines hh) hn⟩

theorem firstLines_inOrder : ((l.entriesOf lines).map (·.item.firstLine)).Pairwise (· < ·) := by
  rw [Language.entriesOf, Matchers.firstLines_entriesUntil]
  exact List.pairwise_map.mpr (l.hits_inOrder lines)

theorem inOrder_ofLines :
    (ofLines path l content lines).items.Pairwise (·.firstLine < ·.firstLine) := by
  rw [items_ofLines]
  exact List.pairwise_map.mpr (List.pairwise_map.mp (firstLines_inOrder l lines))

theorem exists_of_mem_items_ofLines {i : Item} (hi : i ∈ (ofLines path l content lines).items) :
    ∃ hit ∈ l.hits lines, ∃ last, i = (l.matchers.entryOf lines hit last).item := by
  rw [items_ofLines] at hi
  obtain ⟨e, he, rfl⟩ := List.mem_map.mp hi
  obtain ⟨hit, hhit, last, rfl⟩ := Matchers.exists_of_mem_entriesUntil _ _ he
  exact ⟨hit, hhit, last, rfl⟩

/-- **THE PARTS AGREE**: whatever the text and the language, the outline has one entry at most on
    each line, its entries show its types, functions and imports, and the declarations follow one
    another without a gap from the first of them to the end of the file. -/
theorem isOf_ofText : (ofText path l content).IsOf (Text.lines content.toList) := by
  rw [ofText]
  generalize Text.lines content.toList = lines
  have hperm := perm_declarations_ofLines path l content lines
  have hord := inOrder_ofLines path l content lines
  refine ⟨rfl, ⟨Int.natCast_nonneg _, Int.ofNat_le.mpr List.countP_le_length⟩, hord, ?_, ?_, ?_,
    ?_, ?_, ?_, ?_, ?_⟩
  · intro line
    have hnodup : ((ofLines path l content lines).items.map (·.firstLine)).Nodup :=
      List.pairwise_map.mpr (hord.imp Nat.ne_of_lt)
    have hcount := List.nodup_iff_count_le_one.mp hnodup line
    rw [List.count, List.countP_map] at hcount
    exact hcount
  · intro i hi
    obtain ⟨hit, hhit, last, rfl⟩ := exists_of_mem_items_ofLines path l content lines hi
    obtain ⟨n, hline, raw, hraw, htext⟩ :=
      Matchers.scan_onLine (l.mem_scan_of_mem_hits lines hhit)
    refine ⟨n, raw, ?_, hraw, ?_⟩
    · rw [Matchers.firstLine_entryOf, hline, Nat.add_comm]
    · rw [Matchers.text_entryOf, htext]
  · intro i hi
    obtain ⟨hit, -, last, rfl⟩ := exists_of_mem_items_ofLines path l content lines hi
    exact Matchers.category?_entryOf hit last
  · intro category
    rw [itemsIn, items_ofLines, declared_ofLines]
    exact Matchers.forall₂_declared ..
  · rw [itemsIn, items_ofLines, imports_ofLines]
    exact Matchers.forall₂_imported ..
  · rcases tiles_ofLines l lines with hnil | ⟨first, htiles⟩
    · rw [hnil] at hperm
      exact Or.inl hperm.nil_eq.symm
    · exact Or.inr ⟨_, first, hperm, htiles⟩
  · intro d hd line hfirst hlast
    rcases tiles_ofLines l lines with hnil | ⟨first, htiles⟩
    · rw [hnil] at hperm
      rw [← hperm.nil_eq] at hd
      exact nomatch hd
    · rw [← hperm.countP_eq, htiles.countP_eq, if_pos]
      exact ⟨Nat.le_trans (htiles.le_of_mem (hperm.mem_iff.mpr hd)) hfirst, hlast⟩
  · intro d hd
    obtain ⟨e, he, hd⟩ := List.mem_filterMap.mp (hperm.mem_iff.mpr hd)
    obtain ⟨hit, -, last, rfl⟩ := Matchers.exists_of_mem_entriesUntil _ _ he
    exact Matchers.one_le_complexity hd

end Outline

end SourceAtlas
