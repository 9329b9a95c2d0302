import SourceAtlas.Proofs.Outline.Entries

/-! # The entries of a longer file

    Lines in front of a file move its entries down and change nothing else
    (`entriesUntil_shift`).  Lines behind it change one entry only: the last
    declaration gets further lines, and the branches on them
    (`entriesUntil_grow`). -/

namespace SourceAtlas

open Text

/-! ## Moving down and growing -/

/-- The declaration so many lines further down. -/
def Declaration.shift (n : Nat) (d : Declaration) : Declaration :=
  { d with firstLine := d.firstLine + n, lastLine := d.lastLine + n }

/-- The import so many lines further down. -/
def Import.shift (n : Nat) (i : Import) : Import := { i with line := i.line + n }

/-- The outline entry so many lines further down. -/
def Item.shift (n : Nat) (i : Item) : Item :=
  { i with firstLine := i.firstLine + n, lastLine := i.lastLine + n }

/-- The entry so many lines further down. -/
def Entry.shift (n : Nat) (e : Entry) : Entry :=
  ⟨e.item.shift n, e.declared.map fun (c, d) => (c, d.shift n)⟩

/-- The declaration with all lines up to `last`, and so many branches more. -/
def Declaration.grow (last branches : Nat) (d : Declaration) : Declaration :=
  { d with lastLine := last, complexity := d.complexity + branches }

/-- The outline entry with the last line and the complexity of a declaration. -/
def Item.showing (d : Declaration) (i : Item) : Item :=
  { i with
    lastLine := d.lastLine
    attributes := i.attributes.map fun (key, text) =>
      (key, if key = "complexity" then integerText d.complexity else text) }

/-- The entry, grown if it stands for the declaration `target`. -/
def Entry.growIf (target : Option Declaration) (last branches : Nat) (e : Entry) : Entry :=
  match e.declared with
  | some (c, d) =>
    if target = some d then
      ⟨e.item.showing (d.grow last branches), some (c, d.grow last branches)⟩
    else e
  | none => e

theorem Item.showing_ofDeclaration (kind text : String) (category : Category)
    (last branches : Nat) (d : Declaration) :
    (ofDeclaration kind text category d).showing (d.grow last branches)
      = ofDeclaration kind text category (d.grow last branches) := by
  simp [showing, ofDeclaration, Declaration.grow]

theorem Entry.growIf_of_eq {target : Option Declaration} {d : Declaration} (h : target = some d)
    (last branches : Nat) (item : Item) (c : Category) :
    (Entry.mk item (some (c, d))).growIf target last branches
      = ⟨item.showing (d.grow last branches), some (c, d.grow last branches)⟩ :=
  if_pos h

theorem Entry.growIf_of_ne {target : Option Declaration} {d : Declaration} (h : target ≠ some d)
    (last branches : Nat) (item : Item) (c : Category) :
    (Entry.mk item (some (c, d))).growIf target last branches = ⟨item, some (c, d)⟩ :=
  if_neg h

/-! ## Stretches of lines -/

section

variable {xs : List (List Char)} (ys : List (List Char))

/-- Behind other lines, lines are found under higher numbers. -/
theorem linesBetween_append_right {first : Nat} (last : Nat) (h : 1 ≤ first) :
    linesBetween (first + xs.length) (last + xs.length) (xs ++ ys)
      = linesBetween first last ys := by
  have hfirst : first + xs.length - 1 = xs.length + (first - 1) := by omega
  rw [linesBetween, linesBetween, Nat.add_comm last, List.take_length_add_append, hfirst,
    List.drop_length_add_append]

theorem linesBetween_append_left (first : Nat) {last : Nat} (h : last ≤ xs.length) :
    linesBetween first last (xs ++ ys) = linesBetween first last xs := by
  rw [linesBetween, linesBetween, List.take_append_of_le_length h]

/-- A stretch that goes on into the lines behind. -/
theorem linesBetween_append_across {first last : Nat} (hfirst : first ≤ xs.length)
    (hlast : xs.length ≤ last) :
    linesBetween first last (xs ++ ys)
      = linesBetween first xs.length xs ++ ys.take (last - xs.length) := by
  have hdrop : first - 1 ≤ xs.length := Nat.le_trans (Nat.sub_le ..) hfirst
  rw [linesBetween, linesBetween, List.take_append, List.take_of_length_le hlast,
    List.drop_append_of_le_length hdrop, List.take_length]

end

namespace Matchers

variable (m : Matchers) {xs : List (List Char)} (ys : List (List Char))

theorem branches_append (xs : List (List Char)) :
    m.branches (xs ++ ys) = m.branches xs + m.branches ys := by
  induction xs with
  | nil => exact (Nat.zero_add _).symm
  | cons raw rest ih => rw [List.cons_append, branches, branches, ih, Nat.add_assoc]

/-! ## Lines in front -/

theorem declarationOn_shift {line : Nat} (h : 1 ≤ line) (name : List Char) (last : Nat) :
    m.declarationOn (xs ++ ys) (line + xs.length) name (last + xs.length)
      = (m.declarationOn ys line name last).shift xs.length := by
  rw [declarationOn, Nat.add_max_add_right, linesBetween_append_right ys _ h]
  rfl

theorem entryOf_shift {hit : Hit} (h : 1 ≤ hit.line) (last : Nat) :
    m.entryOf (xs ++ ys) (hit.shift xs.length) (last + xs.length)
      = (m.entryOf ys hit last).shift xs.length := by
  obtain ⟨line, text, finding⟩ := hit
  cases finding with
  | declares category name =>
      rw [Hit.shift, entryOf_declares, entryOf_declares, declarationOn_shift m ys h]
      rfl
  | imports target clause => rfl

end Matchers

theorem nextDeclaration?_shift (n : Nat) (hits : List Hit) :
    nextDeclaration? (hits.map (Hit.shift n)) = (nextDeclaration? hits).map (· + n) := by
  induction hits with
  | nil => rfl
  | cons hit rest ih =>
      obtain ⟨line, text, finding⟩ := hit
      cases finding with
      | declares => rfl
      | imports => exact ih

theorem endBefore_shift (n last : Nat) {hits : List Hit} (h : ∀ hit ∈ hits, 1 ≤ hit.line) :
    endBefore (last + n) (hits.map (Hit.shift n)) = endBefore last hits + n := by
  have hshift := nextDeclaration?_shift n hits
  cases hn : nextDeclaration? hits with
  | none =>
      rw [hn] at hshift
      rw [endBefore_of_none hn, endBefore_of_none hshift]
  | some line =>
      obtain ⟨hit, hhit, rfl⟩ := exists_of_nextDeclaration? hn
      have hline := h hit hhit
      rw [hn, Option.map_some] at hshift
      rw [endBefore_of_some hn, endBefore_of_some hshift]
      omega

namespace Matchers

variable (m : Matchers) {xs : List (List Char)} (ys : List (List Char))

/-- **LINES IN FRONT** move the entries down. -/
theorem entriesUntil_shift (last : Nat) {hits : List Hit} (h : ∀ hit ∈ hits, 1 ≤ hit.line) :
    m.entriesUntil (xs ++ ys) (last + xs.length) (hits.map (Hit.shift xs.length))
      = (m.entriesUntil ys last hits).map (Entry.shift xs.length) := by
  induction hits with
  | nil => rfl
  | cons hit rest ih =>
      have hrest : ∀ hit' ∈ rest, 1 ≤ hit'.line :=
        fun hit' hhit' => h hit' (List.mem_cons_of_mem _ hhit')
      rw [List.map_cons, entriesUntil, entriesUntil, List.map_cons, endBefore_shift _ _ hrest,
        entryOf_shift m ys (h hit (List.mem_cons_self ..)), ih hrest]

/-! ## Lines behind -/

theorem declarationOn_append_left {line last : Nat} (hline : line ≤ xs.length)
    (hlast : last ≤ xs.length) (name : List Char) :
    m.declarationOn (xs ++ ys) line name last = m.declarationOn xs line name last := by
  rw [declarationOn, linesBetween_append_left ys line (Nat.max_le.mpr ⟨hlast, hline⟩)]
  rfl

/-- A declaration that goes on to the end of its file goes on into the lines behind. -/
theorem declarationOn_append_across {line last : Nat} (hline : line ≤ xs.length)
    (hlast : xs.length ≤ last) (name : List Char) :
    m.declarationOn (xs ++ ys) line name last
      = (m.declarationOn xs line name xs.length).grow last
          (m.branches (ys.take (last - xs.length))) := by
  have hmax : max last line = last := Nat.max_eq_left (Nat.le_trans hline hlast)
  rw [declarationOn, declarationOn, hmax, Nat.max_eq_left hline,
    linesBetween_append_across ys hline hlast, branches_append, Int.natCast_add, ← Int.add_assoc]
  rfl

/-- No entry of an import changes. -/
theorem entriesUntil_of_no_declaration {hits : List Hit} (h : nextDeclaration? hits = none)
    (lines lines' : List (List Char)) (last last' : Nat) :
    m.entriesUntil lines last hits = m.entriesUntil lines' last' hits := by
  induction hits with
  | nil => rfl
  | cons hit rest ih =>
      obtain ⟨line, text, finding⟩ := hit
      cases finding with
      | declares => exact nomatch h
      | imports =>
          rw [entriesUntil, entriesUntil, entryOf_imports, entryOf_imports, ih h]

/-- Nothing grows where nothing is declared. -/
theorem map_growIf_of_nil {es : List Entry} (h : declarationsOf es = [])
    (target : Option Declaration) (last branches : Nat) :
    es.map (Entry.growIf target last branches) = es := by
  refine (List.map_congr_left fun e he => ?_).trans (List.map_id es)
  have hnone : e.declaration? = none := List.filterMap_eq_nil_iff.mp h e he
  obtain ⟨item, declared⟩ := e
  cases declared with
  | none => rfl
  | some pair => exact nomatch hnone

/-- **LINES BEHIND** make the last declaration grow. -/
theorem entriesUntil_grow {last : Nat} (hlast : xs.length ≤ last) {hits : List Hit}
    (hord : hits.Pairwise (·.line < ·.line)) (hle : ∀ hit ∈ hits, hit.line ≤ xs.length) :
    m.entriesUntil (xs ++ ys) last hits
      = (m.entriesUntil xs xs.length hits).map
          (Entry.growIf (declarationsOf (m.entriesUntil xs xs.length hits)).getLast? last
            (m.branches (ys.take (last - xs.length)))) := by
  induction hits with
  | nil => rfl
  | cons hit rest ih =>
      obtain ⟨hlater, hrest⟩ := List.pairwise_cons.mp hord
      have hlerest : ∀ hit' ∈ rest, hit'.line ≤ xs.length :=
        fun hit' hhit' => hle hit' (List.mem_cons_of_mem _ hhit')
      have hhit : hit.line ≤ xs.length := hle hit (List.mem_cons_self ..)
      obtain ⟨line, text, finding⟩ := hit
      cases finding with
      | imports target clause =>
          rw [entriesUntil, ih hrest hlerest]
          rfl
      | declares category name =>
          rw [entriesUntil, entriesUntil, entryOf_declares, entryOf_declares, List.map_cons,
            declarationsOf_cons]
          generalize hd : m.declarationOn xs line name (endBefore xs.length rest) = d
          cases hn : nextDeclaration? rest with
          | none =>
              -- The last declaration: it gets the lines behind, and only imports come after it.
              have hnil : declarationsOf (m.entriesUntil xs xs.length rest) = [] :=
                declarationsOf_eq_nil hn
              have hgrown : m.declarationOn (xs ++ ys) line name last
                  = d.grow last (m.branches (ys.take (last - xs.length))) := by
                rw [← hd, endBefore_of_none hn]
                exact m.declarationOn_append_across ys hhit hlast name
              rw [hnil, List.getLast?_singleton, Entry.growIf_of_eq rfl, map_growIf_of_nil hnil,
                Item.showing_ofDeclaration, endBefore_of_none hn, hgrown,
                m.entriesUntil_of_no_declaration hn (xs ++ ys) xs last xs.length]
          | some next =>
              -- Another declaration follows, and ends this one in both files at the same line.
              obtain ⟨hit', hhit', rfl⟩ := exists_of_nextDeclaration? hn
              have hle' : hit'.line - 1 ≤ xs.length :=
                Nat.le_trans (Nat.sub_le ..) (hlerest hit' hhit')
              have hne : declarationsOf (m.entriesUntil xs xs.length rest) ≠ [] := by
                intro hnil
                have hhead := @head?_declarationsOf m xs xs.length rest
                rw [hnil, hn] at hhead
                exact Option.some_ne_none _ hhead.symm
              rw [List.getLast?_cons_of_ne_nil hne, ih hrest hlerest, endBefore_of_some hn,
                m.declarationOn_append_left ys hhit hle', ← endBefore_of_some hn xs.length, hd,
                Entry.growIf_of_ne]
              intro heq
              obtain ⟨later, hmem, hline⟩ :=
                exists_of_mem_declarationsOf (List.mem_of_getLast? heq)
              have hlt : line < later.line := hlater later hmem
              rw [← hline, ← hd] at hlt
              exact Nat.lt_irrefl _ hlt

end Matchers

end SourceAtlas
