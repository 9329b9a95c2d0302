import SourceAtlas.Proofs.Outline.Insertion
import SourceAtlas.Proofs.Text.Strip

/-! # The layout of a file

    An outline is read off the stripped lines of a file (`ofLines_strip`).  So it
    does not show which blanks stand at the ends of the lines (`Respaced`), nor
    which characters end them; and a blank line or a comment, put between any
    two lines, only moves and stretches what is there.  `layout_ofText` says so
    of every file. -/

namespace SourceAtlas

open Text

/-! ## Blanks at the ends of a line -/

namespace Text

/-- Blanks that do not break a line. -/
def IsSpacing (cs : List Char) : Prop := ∀ c ∈ cs, isBlank c = true ∧ isLineBreak c = false

/-- Two lines that differ in nothing but the blanks at their ends. -/
def Respaced (line line' : List Char) : Prop :=
  ∃ core front back front' back', IsSpacing front ∧ IsSpacing back ∧ IsSpacing front'
    ∧ IsSpacing back' ∧ line = front ++ core ++ back ∧ line' = front' ++ core ++ back'

variable {line line' : List Char}

theorem Respaced.strip_eq (h : Respaced line line') : strip line = strip line' := by
  obtain ⟨core, front, back, front', back', hfront, hback, hfront', hback', rfl, rfl⟩ := h
  rw [strip_respaced (fun c hc => (hfront c hc).1) (fun c hc => (hback c hc).1),
    strip_respaced (fun c hc => (hfront' c hc).1) (fun c hc => (hback' c hc).1)]

theorem Respaced.unbroken (h : Respaced line line') (hline : Unbroken line) : Unbroken line' := by
  obtain ⟨core, front, back, front', back', -, -, hfront', hback', rfl, rfl⟩ := h
  intro c hc
  rcases List.mem_append.mp hc with hc | hc
  · rcases List.mem_append.mp hc with hc | hc
    · exact (hfront' c hc).2
    · exact hline c (List.mem_append_left _ (List.mem_append_right _ hc))
  · exact (hback' c hc).2

/-- Lines of which the same is left without the blanks at their ends. -/
theorem respaced_of_strip_eq (hline : Unbroken line) (hline' : Unbroken line')
    (h : strip line = strip line') : Respaced line line' := by
  obtain ⟨front, back, hfront, hback, hsplit⟩ := exists_respaced line
  obtain ⟨front', back', hfront', hback', hsplit'⟩ := exists_respaced line'
  rw [← h] at hsplit'
  rw [← hsplit] at hline ⊢
  rw [← hsplit'] at hline' ⊢
  exact ⟨strip line, front, back, front', back',
    fun c hc => ⟨hfront c hc, hline c (List.mem_append_left _ (List.mem_append_left _ hc))⟩,
    fun c hc => ⟨hback c hc, hline c (List.mem_append_right _ hc)⟩,
    fun c hc => ⟨hfront' c hc, hline' c (List.mem_append_left _ (List.mem_append_left _ hc))⟩,
    fun c hc => ⟨hback' c hc, hline' c (List.mem_append_right _ hc)⟩, rfl, rfl⟩

theorem forall₂_respaced {ls ls' : List (List Char)} (hls : ∀ line ∈ ls, Unbroken line)
    (hls' : ∀ line ∈ ls', Unbroken line) (h : ls.map strip = ls'.map strip) :
    List.Forall₂ Respaced ls ls' := by
  induction ls generalizing ls' with
  | nil =>
      rw [List.map_eq_nil_iff.mp h.symm]
      exact .nil
  | cons line rest ih =>
      obtain ⟨line', rest', rfl, hline, hrest⟩ := List.map_eq_cons_iff.mp h.symm
      obtain ⟨hfirst, hlater⟩ := List.forall_mem_cons.mp hls
      obtain ⟨hfirst', hlater'⟩ := List.forall_mem_cons.mp hls'
      exact .cons (respaced_of_strip_eq hfirst hfirst' hline.symm)
        (ih hlater hlater' hrest.symm)

theorem map_strip_of_respaced {ls ls' : List (List Char)} (h : List.Forall₂ Respaced ls ls') :
    ls.map strip = ls'.map strip := by
  induction h with
  | nil => rfl
  | cons hline _ ih => rw [List.map_cons, List.map_cons, hline.strip_eq, ih]

theorem unbroken_of_respaced {ls ls' : List (List Char)} (h : List.Forall₂ Respaced ls ls')
    (hls : ∀ line ∈ ls, Unbroken line) : ∀ line ∈ ls', Unbroken line := by
  induction h with
  | nil => exact hls
  | cons hline _ ih =>
      obtain ⟨hfirst, hrest⟩ := List.forall_mem_cons.mp hls
      exact List.forall_mem_cons.mpr ⟨hline.unbroken hfirst, ih hrest⟩

end Text

/-! ## Stripped lines -/

namespace Matchers

variable (m : Matchers) (lines : List (List Char))

theorem scan_strip (inside : Bool) (line : Nat) :
    m.scan inside line (lines.map strip) = m.scan inside line lines := by
  induction lines generalizing inside line with
  | nil => rfl
  | cons raw rest ih => rw [List.map_cons, scan_cons, scan_cons, hit?, hit?, strip_strip, ih]

theorem branches_strip : m.branches (lines.map strip) = m.branches lines := by
  induction lines with
  | nil => rfl
  | cons raw rest ih =>
      rw [List.map_cons, branches, branches, ih, branchesOn, branchesOn, strip_strip]

theorem comments_strip : m.comments (lines.map strip) = m.comments lines := by
  rw [comments, comments, List.countP_map]
  refine List.countP_congr fun raw _ => ?_
  rw [Function.comp_apply, strip_strip]

theorem scopeOf?_strip : m.scopeOf? (lines.map strip) = m.scopeOf? lines := by
  rw [scopeOf?, scopeOf?]
  refine congrArg m.namespaceLine.bind (funext fun p => ?_)
  rw [List.findSome?_map]
  simp only [Function.comp_def, strip_strip]

theorem declarationOn_strip (line : Nat) (name : List Char) (last : Nat) :
    m.declarationOn (lines.map strip) line name last = m.declarationOn lines line name last := by
  rw [declarationOn, linesBetween, ← List.map_take, ← List.map_drop, branches_strip]
  rfl

theorem entriesUntil_strip (last : Nat) (hits : List Hit) :
    m.entriesUntil (lines.map strip) last hits = m.entriesUntil lines last hits := by
  induction hits with
  | nil => rfl
  | cons hit rest ih =>
      obtain ⟨line, text, finding⟩ := hit
      cases finding with
      | declares => rw [entriesUntil, entriesUntil, entryOf_declares, declarationOn_strip, ih]; rfl
      | imports => rw [entriesUntil, entriesUntil, ih]; rfl

end Matchers

namespace Outline

theorem ofLines_strip (path : String) (l : Language) (content : String)
    (lines : List (List Char)) :
    ofLines path l content (lines.map strip) = ofLines path l content lines := by
  simp only [ofLines, Matchers.entries_eq_entriesUntil, Matchers.scan_strip,
    Matchers.entriesUntil_strip, Matchers.comments_strip, Matchers.scopeOf?_strip,
    List.length_map]

/-! ## Files -/

/-- **LAYOUT**: neither the blanks at the ends of the lines of a file nor the characters that end
    them make a difference to its outline. A blank line or a comment, put in anywhere, takes a
    number of its own and changes nothing else. -/
theorem layout_ofText (path : String) (l : Language) (e e' : LineEnd)
    {xs ys xs' ys' : List (List Char)} (hls : ∀ line ∈ xs ++ ys, Unbroken line)
    (hxs : List.Forall₂ Respaced xs xs') (hys : List.Forall₂ Respaced ys ys') :
    ofText path l (textEnding e' (xs' ++ ys'))
        = { ofText path l (textEnding e (xs ++ ys)) with content := textEnding e' (xs' ++ ys') }
      ∧ ∀ raw, Unbroken raw → l.matchers.Idle raw →
        IsInsertion xs.length (l.matchers.isComment (strip raw))
          (ofText path l (textEnding e (xs ++ ys)))
          (ofText path l (textEnding e' (xs' ++ raw :: ys'))) := by
  obtain ⟨hxsUnbroken, hysUnbroken⟩ := List.forall_mem_append.mp hls
  have hxs' := unbroken_of_respaced hxs hxsUnbroken
  have hys' := unbroken_of_respaced hys hysUnbroken
  rw [ofText, ofText, lines_textEnding e hls,
    lines_textEnding e' (List.forall_mem_append.mpr ⟨hxs', hys'⟩)]
  constructor
  · have hlines : (xs ++ ys).map strip = (xs' ++ ys').map strip := by
      rw [List.map_append, List.map_append, map_strip_of_respaced hxs, map_strip_of_respaced hys]
    rw [← ofLines_strip, ← hlines, ofLines_strip]
    rfl
  · intro raw hraw hidle
    have hboth : ∀ line ∈ xs' ++ raw :: ys', Unbroken line :=
      List.forall_mem_append.mpr ⟨hxs', List.forall_mem_cons.mpr ⟨hraw, hys'⟩⟩
    have hlines : (xs ++ raw :: ys).map strip = (xs' ++ raw :: ys').map strip := by
      rw [List.map_append, List.map_append, List.map_cons, List.map_cons,
        map_strip_of_respaced hxs, map_strip_of_respaced hys]
    rw [ofText, lines_textEnding e' hboth, ← ofLines_strip path l _ (xs' ++ raw :: ys'), ← hlines,
      ofLines_strip]
    exact isInsertion_ofLines path l _ _ xs ys hidle

/-- A file up to the middle of a group of imports, laid out in two ways. -/
def openGroup : List (List Char) :=
  ["package m", "import (", "\t\"fmt\""].map String.toList

def openGroupRespaced : List (List Char) :=
  ["package m  ", "  import (", "\"fmt\"\t"].map String.toList

/-- The rest of that file. -/
def fromGroup : List (List Char) :=
  ["\t\"os\"", ")", "func f() \x7b", "\tif x \x7b"].map String.toList

def fromGroupRespaced : List (List Char) :=
  ["\"os\"", "\t)", "func f() \x7b", "if x \x7b "].map String.toList

/-- A comment in an open group of imports, in a file that has got other blanks and line ends. -/
theorem layout_openGroup :
    (∀ line ∈ openGroup ++ fromGroup, Unbroken line)
    ∧ List.Forall₂ Respaced openGroup openGroupRespaced
    ∧ List.Forall₂ Respaced fromGroup fromGroupRespaced
    ∧ Unbroken "  // \"io\"".toList ∧ Language.go.matchers.Idle "  // \"io\"".toList
    ∧ ofText "m.go" .go (textEnding .crlf (openGroupRespaced ++ fromGroupRespaced))
        = { ofText "m.go" .go (textEnding .lf (openGroup ++ fromGroup)) with
            content := textEnding .crlf (openGroupRespaced ++ fromGroupRespaced) }
    ∧ IsInsertion 3 true (ofText "m.go" .go (textEnding .lf (openGroup ++ fromGroup)))
        (ofText "m.go" .go
          (textEnding .crlf (openGroupRespaced ++ "  // \"io\"".toList :: fromGroupRespaced))) :=
  have hls : ∀ line ∈ openGroup ++ fromGroup, Unbroken line := by decide
  have hxs : List.Forall₂ Respaced openGroup openGroupRespaced :=
    forall₂_respaced (by decide) (by decide) (by decide)
  have hys : List.Forall₂ Respaced fromGroup fromGroupRespaced :=
    forall₂_respaced (by decide) (by decide) (by decide)
  have hraw : Unbroken "  // \"io\"".toList := by decide
  have hidle : Language.go.matchers.Idle "  // \"io\"".toList := by decide
  have hlayout := layout_ofText "m.go" .go .lf .crlf hls hxs hys
  ⟨hls, hxs, hys, hraw, hidle, hlayout.1, hlayout.2 _ hraw hidle⟩

end Outline

end SourceAtlas
