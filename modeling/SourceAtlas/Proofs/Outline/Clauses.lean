import SourceAtlas.Outline.Symbols
import SourceAtlas.Proofs.Path.Plain
import SourceAtlas.Proofs.Text.Marks
import SourceAtlas.Proofs.Text.Strip

/-! # Reading symbol clauses back

    A clause is written from specifiers (`Specifier.written`): a name, with the
    word `type` in front of it or not, and renamed or not.  Everything about
    reading it follows from one equation, that a clause can be cut at any mark
    (`symbolChars_append`), and from what is read of a single specifier
    (`symbolOf?_written`).

    That is the name, with one exception.  Where a name that is itself `type` is
    renamed, it is taken for the word in front, and what is read is the renaming
    (`Specifier.isTakenForMark`).  So a clause is read back exactly if there is no
    such specifier in it (`symbolsOf_clause`). -/

namespace SourceAtlas

open Text

/-! ## What is written -/

/-- A name of source code: letters, digits, low lines and dollar signs. -/
structure Identifier where
  chars : List Char
  ne_nil : chars ≠ []
  isNameChar : ∀ c ∈ chars, Text.isNameChar c = true

/-- One name in a clause. -/
structure Specifier where
  /-- The word `type` stands in front. -/
  marked : Bool := false
  /-- The name in the imported module. -/
  name : Identifier
  /-- The name that is used instead. -/
  renamed : Option Identifier := none

namespace Specifier

/-- What follows the name: the word `as` and another name, or nothing. -/
def behindName (s : Specifier) : List Char :=
  (s.renamed.map fun other => " as ".toList ++ other.chars).getD []

/-- The specifier as it is written. -/
def written (s : Specifier) : List Char :=
  (if s.marked then "type ".toList else []) ++ (s.name.chars ++ s.behindName)

/-- The name is `type`, nothing stands in front of it, and it is renamed. -/
def isTakenForMark (s : Specifier) : Bool :=
  !s.marked && s.name.chars = "type".toList && s.renamed.isSome

/-- What is read of a specifier: its name, unless that is taken for the word in front. -/
def readAs (s : Specifier) : List Char :=
  if s.isTakenForMark then s.behindName.tail else s.name.chars

end Specifier

/-- A specifier with blanks around it. -/
structure SpacedSpecifier where
  before : List Char
  specifier : Specifier
  after : List Char
  isBlank_before : ∀ c ∈ before, isBlank c = true
  isBlank_after : ∀ c ∈ after, isBlank c = true

/-- The specifier and the blanks as they are written. -/
def SpacedSpecifier.written (s : SpacedSpecifier) : List Char :=
  s.before ++ s.specifier.written ++ s.after

/-- What encloses a clause. -/
inductive Enclosure where
  | nothing
  | braces
  | parentheses

/-- A clause within its enclosure. -/
def Enclosure.around (clause : List Char) : Enclosure → List Char
  | nothing => clause
  | braces => '\x7b' :: (clause ++ ['\x7d'])
  | parentheses => '(' :: (clause ++ [')'])

/-- A clause: specifiers with a comma between any two that follow each other. -/
def writtenClause (e : Enclosure) (items : List SpacedSpecifier) : String :=
  .ofList (e.around (joinWith [','] (items.map (·.written))))

/-! ## Cutting a clause -/

theorem avoids_of_all {cs : List Char} (h : cs.all (!isClauseMark ·) = true) :
    ∀ c ∈ cs, isClauseMark c = false :=
  fun c hc => (Bool.not_eq_true' _).mp (List.all_eq_true.mp h c hc)

/-- A clause can be cut at any mark. -/
theorem symbolChars_append {mark : Char} (hmark : isClauseMark mark = true)
    (front back : List Char) :
    symbolChars (front ++ mark :: back) = symbolChars front ++ symbolChars back := by
  rw [symbolChars, splitAll_append hmark, List.filterMap_append]
  rfl

/-- Without a mark there is one specifier at most. -/
theorem symbolChars_of_avoids {cs : List Char} (h : ∀ c ∈ cs, isClauseMark c = false) :
    symbolChars cs = (symbolOf? cs).toList := by
  rw [symbolChars, splitAll_of_avoids h, List.filterMap_cons]
  cases symbolOf? cs <;> rfl

/-- What encloses a clause does not matter. -/
theorem symbolChars_around (e : Enclosure) (clause : List Char) :
    symbolChars (e.around clause) = symbolChars clause := by
  -- An opening mark is a cut behind nothing, a closing one a cut in front of nothing.
  have hboth : ∀ opening closing : Char, isClauseMark opening = true →
      isClauseMark closing = true →
      symbolChars (opening :: (clause ++ [closing])) = symbolChars clause := by
    intro opening closing ho hc
    have hcut := symbolChars_append ho [] (clause ++ [closing])
    rw [List.nil_append] at hcut
    rw [hcut, symbolChars_append hc]
    exact List.append_nil _
  cases e with
  | nothing => rfl
  | braces => exact hboth _ _ (by decide) (by decide)
  | parentheses => exact hboth _ _ (by decide) (by decide)

/-! ## Identifiers -/

namespace Identifier

/-- The word that may stand in front of a name. -/
def typeWord : Identifier := ⟨"type".toList, by decide, List.all_eq_true.mp (by decide)⟩

/-- The word that may stand behind it. -/
def asWord : Identifier := ⟨"as".toList, by decide, List.all_eq_true.mp (by decide)⟩

/-- What is cut or stripped does not stand in a name. -/
theorem avoids {c : Char} (h : Text.isNameChar c = true) :
    isBlank c = false ∧ isClauseMark c = false ∧ c ≠ '#' := by
  refine ⟨Bool.eq_false_iff.mpr fun hblank => ?_, Bool.eq_false_iff.mpr fun hmark => ?_,
    fun hc => ?_⟩
  · rw [Text.isNameChar, isWord_of_isBlank hblank, Bool.false_or, decide_eq_true_eq] at h
    exact absurd (h ▸ hblank) (by decide)
  · simp only [isClauseMark, Bool.or_eq_true, decide_eq_true_eq] at hmark
    rcases hmark with (((rfl | rfl) | rfl) | rfl) | rfl <;> exact absurd h (by decide)
  · exact absurd (hc ▸ h) (by decide)

variable (i : Identifier)

theorem blank_not_mem : ' ' ∉ i.chars :=
  fun h => absurd (i.isNameChar _ h) (by decide)

/-- A text that begins with one name and ends with it or another one. -/
theorem strip_append {back : List Char}
    (hback : back = [] ∨ ∃ (front : List Char) (j : Identifier), back = front ++ j.chars) :
    strip (i.chars ++ back) = i.chars ++ back := by
  have hname : ∀ (j : Identifier), ∀ c ∈ j.chars, isBlank c = false :=
    fun j c hc => (avoids (j.isNameChar c hc)).1
  refine strip_of_ends (fun c hc => hname i c ?_) fun c hc => ?_
  · rw [List.head?_append_of_ne_nil _ i.ne_nil] at hc
    exact List.mem_of_head? hc
  · rcases hback with rfl | ⟨front, j, rfl⟩
    · rw [List.append_nil] at hc
      exact hname i c (List.mem_of_getLast? hc)
    · rw [← List.append_assoc, List.getLast?_append_of_ne_nil _ j.ne_nil] at hc
      exact hname j c (List.mem_of_getLast? hc)

/-- Nor does such a text begin with the mark of a comment. -/
theorem head?_append_ne (back : List Char) : (i.chars ++ back).head? ≠ some '#' := by
  rw [List.head?_append_of_ne_nil _ i.ne_nil]
  exact fun h => (avoids (i.isNameChar _ (List.mem_of_head? h))).2.2 rfl

end Identifier

/-! ## What is read of one specifier -/

/-- What is read once the blanks have been stripped. -/
theorem symbolOf?_of_strip {raw cs name : List Char} (hstrip : strip raw = cs) (hcs : cs ≠ [])
    (hcomment : cs.head? ≠ some '#') (hname : dropRenaming (dropTypeWord cs) = name)
    (hsome : name ≠ []) : symbolOf? raw = some name := by
  have hspecifies : ¬ (cs.isEmpty || cs.head? = some '#') = true := by
    rw [Bool.or_eq_true, List.isEmpty_iff, decide_eq_true_eq]
    exact not_or.mpr ⟨hcs, hcomment⟩
  simp only [symbolOf?, hstrip]
  rw [if_neg hspecifies, hname, if_neg fun h => hsome (List.isEmpty_iff.mp h)]

/-- The word `type` is dropped with the blank behind it. -/
theorem dropTypeWord_mark (cs : List Char) : dropTypeWord ("type ".toList ++ cs) = strip cs := by
  have hprefix : "type ".toList.isPrefixOf ("type ".toList ++ cs) = true :=
    List.isPrefixOf_iff_prefix.mpr (List.prefix_append ..)
  rw [dropTypeWord, if_pos hprefix]
  rfl

/-- The two words that are looked for are cut off only where blanks stand on both sides. -/
theorem dropRenaming_of_blank {cs : List Char} (h : cs.count ' ' < 2) : dropRenaming cs = cs := by
  have hnone : breakOn " as ".toList cs = none := by
    refine breakOn_eq_none_iff.mpr fun hinfix => ?_
    have hcount := hinfix.sublist.count_le ' '
    have htwo : " as ".toList.count ' ' = 2 := by decide
    omega
  rw [dropRenaming, hnone]

namespace Specifier

variable (s : Specifier)

theorem behindName_cases :
    (s.renamed = none ∧ s.behindName = [])
    ∨ ∃ other : Identifier, s.renamed = some other
      ∧ s.behindName = " as ".toList ++ other.chars := by
  rw [behindName]
  cases s.renamed with
  | none => exact Or.inl ⟨rfl, rfl⟩
  | some other => exact Or.inr ⟨other, rfl, rfl⟩

theorem behindName_ends :
    s.behindName = []
      ∨ ∃ (front : List Char) (j : Identifier), s.behindName = front ++ j.chars := by
  rcases s.behindName_cases with ⟨-, h⟩ | ⟨other, -, h⟩
  · exact Or.inl h
  · exact Or.inr ⟨_, other, h⟩

/-- A name that is taken for the word in front is followed by another one. -/
theorem eq_of_isTakenForMark (h : s.isTakenForMark = true) :
    ∃ other : Identifier, s.name.chars = "type".toList
      ∧ s.behindName = " as ".toList ++ other.chars := by
  rw [isTakenForMark, Bool.and_eq_true, Bool.and_eq_true, decide_eq_true_eq] at h
  rcases s.behindName_cases with ⟨hnone, -⟩ | ⟨other, -, hother⟩
  · rw [hnone] at h
    exact nomatch h.2
  · exact ⟨other, h.1.2, hother⟩

/-- The name is what stands in front of the first blank. -/
theorem takeWhile_name : (s.name.chars ++ s.behindName).takeWhile (· ≠ ' ') = s.name.chars := by
  have hname : ∀ c ∈ s.name.chars, decide (c ≠ ' ') = true :=
    fun c hc => decide_eq_true fun h => s.name.blank_not_mem (h ▸ hc)
  rw [List.takeWhile_append_of_pos hname]
  rcases s.behindName_cases with ⟨-, h⟩ | ⟨other, -, h⟩
  · rw [h]
    exact List.append_nil _
  · rw [h]
    exact List.append_nil _

/-- Of a name and what follows it, the name is left. -/
theorem dropRenaming_name : dropRenaming (s.name.chars ++ s.behindName) = s.name.chars := by
  rcases s.behindName_cases with ⟨-, h⟩ | ⟨other, -, h⟩
  · rw [h, List.append_nil]
    refine dropRenaming_of_blank ?_
    rw [List.count_eq_zero.mpr s.name.blank_not_mem]
    decide
  · have hbreak : breakOn " as ".toList (s.name.chars ++ " as ".toList ++ other.chars)
        = some (s.name.chars, other.chars) := breakOn_behind s.name.blank_not_mem _
    rw [h, ← List.append_assoc, dropRenaming, hbreak]
    have hstrip := s.name.strip_append (Or.inl rfl)
    rwa [List.append_nil] at hstrip

/-- A name without a mark is taken for one only if it is `type` and something follows it. -/
theorem isPrefixOf_name_iff (h : s.marked = false) :
    "type ".toList.isPrefixOf (s.name.chars ++ s.behindName) = s.isTakenForMark := by
  rw [Bool.eq_iff_iff, List.isPrefixOf_iff_prefix, isTakenForMark, h, Bool.not_false,
    Bool.true_and, Bool.and_eq_true, decide_eq_true_eq]
  constructor
  · rintro ⟨back, hback⟩
    have hname : s.name.chars = "type".toList := by
      rw [← s.takeWhile_name, ← hback]
      rfl
    refine ⟨hname, ?_⟩
    rcases s.behindName_cases with ⟨-, hnone⟩ | ⟨other, hsome, -⟩
    · rw [hnone, List.append_nil, hname] at hback
      exact absurd (congrArg List.length hback) (by simp)
    · rw [hsome]
      rfl
  · rintro ⟨hname, hsome⟩
    rcases s.behindName_cases with ⟨hnone, -⟩ | ⟨other, -, hother⟩
    · rw [hnone] at hsome
      exact nomatch hsome
    · rw [hname, hother]
      exact ⟨"as ".toList ++ other.chars, rfl⟩

/-- What is left of a specifier without the word in front and without the other name. -/
theorem dropRenaming_written : dropRenaming (dropTypeWord s.written) = s.readAs := by
  rw [written, readAs]
  cases hmarked : s.marked with
  | true =>
      have htaken : s.isTakenForMark = false := by
        rw [isTakenForMark, hmarked]
        rfl
      rw [if_pos rfl, dropTypeWord_mark, s.name.strip_append s.behindName_ends,
        s.dropRenaming_name, htaken]
      rfl
  | false =>
      have hstart := s.isPrefixOf_name_iff hmarked
      rw [if_neg Bool.false_ne_true, List.nil_append]
      by_cases htaken : s.isTakenForMark = true
      · -- The name is dropped, and what follows it has one blank only.
        obtain ⟨other, hname, hother⟩ := s.eq_of_isTakenForMark htaken
        have hrest : s.name.chars ++ s.behindName
            = "type ".toList ++ (Identifier.asWord.chars ++ ' ' :: other.chars) := by
          rw [hname, hother]
          rfl
        have hstrip : strip (Identifier.asWord.chars ++ ' ' :: other.chars)
            = Identifier.asWord.chars ++ ' ' :: other.chars :=
          Identifier.asWord.strip_append (Or.inr ⟨[' '], other, rfl⟩)
        have hcount : (Identifier.asWord.chars ++ ' ' :: other.chars).count ' ' < 2 := by
          rw [List.count_append, List.count_cons_self,
            List.count_eq_zero.mpr other.blank_not_mem]
          decide
        rw [hrest, dropTypeWord_mark, hstrip, dropRenaming_of_blank hcount, if_pos htaken, hother]
        rfl
      · rw [dropTypeWord, hstart, if_neg htaken, if_neg htaken]
        exact s.dropRenaming_name

theorem readAs_ne_nil : s.readAs ≠ [] := by
  rw [readAs]
  split
  · rename_i htaken
    obtain ⟨other, -, hother⟩ := s.eq_of_isTakenForMark htaken
    rw [hother]
    exact List.cons_ne_nil 'a' ('s' :: ' ' :: other.chars)
  · exact s.name.ne_nil

/-- Two words are read where the name is taken for the word in front, and one elsewhere. -/
theorem readAs_eq_name_iff : s.readAs = s.name.chars ↔ s.isTakenForMark = false := by
  rw [readAs]
  constructor
  · intro h
    refine Bool.eq_false_iff.mpr fun htaken => ?_
    obtain ⟨other, hname, hother⟩ := s.eq_of_isTakenForMark htaken
    rw [if_pos htaken, hname, hother] at h
    exact absurd (List.cons.inj h).1 (by decide)
  · intro htaken
    rw [if_neg (ne_true_of_eq_false htaken)]

/-- A specifier begins with a name or with the word in front of it, and it ends with a name. -/
theorem written_eq : ∃ (first : Identifier) (back : List Char),
    s.written = first.chars ++ back
      ∧ (back = [] ∨ ∃ (front : List Char) (j : Identifier), back = front ++ j.chars) := by
  rw [written]
  cases s.marked with
  | false => exact ⟨s.name, s.behindName, rfl, s.behindName_ends⟩
  | true =>
      refine ⟨Identifier.typeWord, ' ' :: (s.name.chars ++ s.behindName), rfl, Or.inr ?_⟩
      rcases s.behindName_ends with h | ⟨front, j, h⟩
      · exact ⟨[' '], s.name, by rw [h, List.append_nil]; rfl⟩
      · refine ⟨' ' :: (s.name.chars ++ front), j, ?_⟩
        rw [h, List.cons_append, List.append_assoc]

/-- No mark of a clause stands in a specifier. -/
theorem avoids_written : ∀ c ∈ s.written, isClauseMark c = false := by
  have hname : ∀ (i : Identifier), ∀ c ∈ i.chars, isClauseMark c = false :=
    fun i c hc => (Identifier.avoids (i.isNameChar c hc)).2.1
  intro c hc
  rw [written, List.mem_append, List.mem_append] at hc
  rcases hc with hc | hc | hc
  · split at hc
    · exact avoids_of_all (by decide) c hc
    · exact absurd hc List.not_mem_nil
  · exact hname _ c hc
  · rcases s.behindName_cases with ⟨-, h⟩ | ⟨other, -, h⟩
    · exact absurd (h ▸ hc) List.not_mem_nil
    · rw [h, List.mem_append] at hc
      exact hc.elim (avoids_of_all (by decide) c) (hname other c)

end Specifier

namespace SpacedSpecifier

variable (s : SpacedSpecifier)

/-- The blanks around a specifier do not matter, and what is read of it is never empty. -/
theorem symbolOf?_written : symbolOf? s.written = some s.specifier.readAs := by
  obtain ⟨first, back, hwritten, hback⟩ := s.specifier.written_eq
  have hstrip : strip s.written = s.specifier.written := by
    rw [written, strip_respaced s.isBlank_before s.isBlank_after, hwritten,
      first.strip_append hback]
  refine symbolOf?_of_strip hstrip ?_ ?_ s.specifier.dropRenaming_written
    s.specifier.readAs_ne_nil
  · rw [hwritten]
    exact List.append_ne_nil_of_left_ne_nil first.ne_nil _
  · rw [hwritten]
    exact first.head?_append_ne back

theorem avoids_written : ∀ c ∈ s.written, isClauseMark c = false := by
  have hblank : ∀ c, isBlank c = true → isClauseMark c = false := by
    intro c hc
    refine Bool.eq_false_iff.mpr fun hmark => ?_
    simp only [isClauseMark, Bool.or_eq_true, decide_eq_true_eq] at hmark
    rcases hmark with (((rfl | rfl) | rfl) | rfl) | rfl <;> exact absurd hc (by decide)
  intro c hc
  rw [written, List.mem_append, List.mem_append] at hc
  rcases hc with (hc | hc) | hc
  · exact hblank c (s.isBlank_before c hc)
  · exact s.specifier.avoids_written c hc
  · exact hblank c (s.isBlank_after c hc)

theorem symbolChars_written : symbolChars s.written = [s.specifier.readAs] := by
  rw [symbolChars_of_avoids s.avoids_written, s.symbolOf?_written]
  rfl

end SpacedSpecifier

/-! ## What is read of a clause -/

/-- A clause is read specifier by specifier. -/
theorem symbolChars_joinWith (items : List SpacedSpecifier) :
    symbolChars (joinWith [','] (items.map (·.written))) = items.map (·.specifier.readAs) := by
  induction items with
  | nil => rfl
  | cons item rest ih =>
      cases rest with
      | nil => exact item.symbolChars_written
      | cons next rest =>
          have hcut : joinWith [','] ((item :: next :: rest).map (·.written))
              = item.written ++ ',' :: joinWith [','] ((next :: rest).map (·.written)) := by
            show item.written ++ [','] ++ _ = _
            rw [List.append_assoc]
            rfl
          rw [hcut, symbolChars_append (by decide), item.symbolChars_written, ih]
          rfl

/-- **READING BACK**: of a clause the names are read in order, but of a name that is taken for
    the word in front its renaming is read.  So the names are what is read of a clause exactly if
    none of them is taken for that word. -/
theorem symbolsOf_clause (e : Enclosure) (items : List SpacedSpecifier) :
    symbolsOf (writtenClause e items) = items.map (fun item => .ofList item.specifier.readAs)
    ∧ (symbolsOf (writtenClause e items)
          = items.map (fun item => .ofList item.specifier.name.chars)
        ↔ ∀ item ∈ items, item.specifier.isTakenForMark = false) := by
  have hread : symbolsOf (writtenClause e items)
      = items.map (fun item => .ofList item.specifier.readAs) := by
    rw [symbolsOf, writtenClause, String.toList_ofList, symbolChars_around, symbolChars_joinWith,
      List.map_map]
    rfl
  refine ⟨hread, ?_⟩
  rw [hread, List.map_inj_left]
  refine forall₂_congr fun item _ => ?_
  rw [String.ofList_inj]
  exact item.specifier.readAs_eq_name_iff

example : symbolsOf "\x7b a, b as c, type D \x7d" = ["a", "b", "D"] := by
  decide

/-- The name `type`, which is renamed to `T`. -/
def typeRenamed : SpacedSpecifier where
  before := [' ']
  specifier :=
    { name := Identifier.typeWord
      renamed := some ⟨['T'], by decide, List.all_eq_true.mp (by decide)⟩ }
  after := [' ']
  isBlank_before := List.all_eq_true.mp (by decide)
  isBlank_after := List.all_eq_true.mp (by decide)

/-- Where `type` is renamed, it is not read. -/
theorem not_read_typeRenamed :
    writtenClause .braces [typeRenamed] = "\x7b type as T \x7d"
    ∧ symbolsOf (writtenClause .braces [typeRenamed]) = ["as T"]
    ∧ symbolsOf (writtenClause .braces [typeRenamed])
        ≠ [.ofList typeRenamed.specifier.name.chars] := by
  decide

end SourceAtlas
