import SourceAtlas.Command.Run

/-! # Files with another content

    A path is followed by the names of files and directories, whatever is in the
    files.  So a workspace in which one file has another content (`withContent`)
    has the same places: every path leads to the same place (`find_withContent`),
    what is read there is the new content or the old one
    (`read_withContent_cases`), and there are as many files to analyse
    (`isEmpty_sourcesAt_withContent`). -/

namespace SourceAtlas

namespace Workspace

/-- The workspace in which a file has another content. -/
def withContent (w : Workspace) (p : Place) (c : Content) : Workspace :=
  { w with files := w.files.map fun (q, old) => (q, if q = p then c else old) }

variable (w : Workspace) (p : Place) (c : Content)

theorem content?_withContent (q : Place) :
    (w.withContent p c).content? q = (w.content? q).map fun old => if q = p then c else old := by
  unfold content? withContent
  simp only
  induction w.files with
  | nil => rfl
  | cons file rest ih =>
      obtain ⟨r, old⟩ := file
      rw [List.map_cons, List.lookup_cons, List.lookup_cons]
      by_cases h : q = r
      · rw [h, beq_self_eq_true]
        rfl
      · rw [beq_false_of_ne h]
        exact ih

@[simp] theorem isFile_withContent (q : Place) : (w.withContent p c).isFile q = w.isFile q := by
  rw [isFile, content?_withContent, Option.isSome_map]
  rfl

@[simp] theorem isDirectory_withContent (q : Place) :
    (w.withContent p c).isDirectory q = w.isDirectory q := by
  unfold isDirectory withContent
  simp only [List.any_map, Function.comp_def]

@[simp] theorem follow_withContent (q : Place) (names : List String) :
    (w.withContent p c).follow q names = w.follow q names := by
  induction names generalizing q with
  | nil => rw [follow, follow, isFile_withContent, isDirectory_withContent]
  | cons name rest ih => rw [follow, follow, isDirectory_withContent, ih]

@[simp] theorem find_withContent (path : String) :
    (w.withContent p c).find path = w.find path := by
  unfold find
  simp only [follow_withContent]
  rfl

theorem read_withContent (path : String) :
    (w.withContent p c).read path
      = (w.find path).map
          (·.bind fun q => (w.content? q).map fun old => if q = p then c else old) := by
  rw [read, find_withContent]
  exact congrArg (fun f => (w.find path).map (·.bind f)) (funext (content?_withContent w p c))

/-- At a path is the file with the new content, or what has been there before. -/
theorem read_withContent_cases (path : String) :
    (∀ c, (w.withContent p c).read path = .ok (some c))
      ∨ ∀ c, (w.withContent p c).read path = w.read path := by
  cases hfind : w.find path with
  | error f => exact .inr fun c => by rw [read_withContent, read, hfind]; rfl
  | ok found =>
      have hnew : ∀ c, (w.withContent p c).read path
          = .ok (found.bind fun q => (w.content? q).map fun old => if q = p then c else old) := by
        intro c
        rw [read_withContent, hfind]
        rfl
      have hold : w.read path = .ok (found.bind w.content?) := by
        rw [read, hfind]
        rfl
      by_cases hplace : found = some p ∧ (w.content? p).isSome
      · obtain ⟨rfl, hfile⟩ := hplace
        obtain ⟨old, hcontent⟩ := Option.isSome_iff_exists.mp hfile
        refine .inl fun c => ?_
        rw [hnew, Option.bind_some, hcontent, Option.map_some, if_pos rfl]
      · refine .inr fun c => ?_
        rw [hnew, hold]
        refine congrArg Except.ok (Option.bind_congr fun q hq => ?_)
        by_cases hqp : q = p
        · have hnone : w.content? p = none :=
            Option.not_isSome_iff_eq_none.mp fun hfile => hplace ⟨hqp ▸ hq, hfile⟩
          rw [hqp, hnone, Option.map_none]
        · simp only [if_neg hqp, Option.map_id']

/-! ## Names of files -/

/-- Where a file below a place is, seen from there. -/
def nameBelow? (q r : Place) : Option Place :=
  if q.isPrefixOf r && q.length < r.length then some (r.drop q.length) else none

theorem filesUnder_eq (q : Place) :
    w.filesUnder q
      = (w.files.filterMap fun file => (nameBelow? q file.1).map (·, file.2)).mergeSort
          fun a b => !decide (b.1 < a.1) := by
  have hbelow : ∀ file : Place × Content,
      (if q.isPrefixOf file.1 && q.length < file.1.length
        then some (file.1.drop q.length, file.2) else none)
        = (nameBelow? q file.1).map (·, file.2) := by
    intro file
    unfold nameBelow?
    split <;> rfl
  exact congrArg (fun f => (w.files.filterMap f).mergeSort _) (funext hbelow)

/-- The names of files that are selected by their names. -/
theorem map_fst_filterMap {α β γ : Type} (f : α → Option β) (files : List (α × γ)) :
    (files.filterMap fun file => (f file.1).map (·, file.2)).map Prod.fst
      = (files.map Prod.fst).filterMap f := by
  rw [List.map_filterMap, List.filterMap_map]
  congr 1
  funext file
  rw [Option.map_map]
  exact Option.map_id'

/-- The files below a place have the names of files in the workspace, in order. -/
theorem map_fst_filesUnder (q : Place) :
    (w.filesUnder q).map Prod.fst
      = ((w.files.map Prod.fst).filterMap (nameBelow? q)).mergeSort fun a b => !decide (b < a) := by
  rw [filesUnder_eq, List.map_mergeSort (s := fun a b => !decide (b < a)) fun _ _ _ _ => rfl,
    map_fst_filterMap]

theorem map_fst_filesUnder_withContent (q : Place) :
    ((w.withContent p c).filesUnder q).map Prod.fst = (w.filesUnder q).map Prod.fst := by
  have hfirst : (w.withContent p c).files.map Prod.fst = w.files.map Prod.fst :=
    List.map_map
  rw [map_fst_filesUnder, map_fst_filesUnder, hfirst]

end Workspace

/-- The name under which a file is analysed, unless it is left out. -/
def Settings.sourceName? (s : Settings) (names : Place) : Option String :=
  if names.dropLast.any s.skips || (Language.ofPath? (names.getLast?.getD "")).isNone then none
  else some ("/".intercalate names)

theorem sourcesAt_of_directory {w : Workspace} {q : Place} (h : w.content? q = none)
    (s : Settings) :
    sourcesAt w s q
      = (w.filesUnder q).filterMap fun file => (s.sourceName? file.1).map (·, file.2) := by
  have hsource : ∀ file : Place × Content,
      (if file.1.dropLast.any s.skips || (Language.ofPath? (file.1.getLast?.getD "")).isNone
        then none else some ("/".intercalate file.1, file.2))
        = (s.sourceName? file.1).map (·, file.2) := by
    intro file
    unfold Settings.sourceName?
    split <;> rfl
  unfold sourcesAt
  rw [h]
  exact congrArg (fun f => (w.filesUnder q).filterMap f) (funext hsource)

/-- The files to analyse have the same names in the same order. -/
theorem map_fst_sourcesAt_withContent (w : Workspace) (p : Place) (c : Content) (s : Settings)
    (q : Place) :
    (sourcesAt (w.withContent p c) s q).map Prod.fst = (sourcesAt w s q).map Prod.fst := by
  have hcontent := w.content?_withContent p c q
  cases hold : w.content? q with
  | some old =>
      rw [hold] at hcontent
      rw [sourcesAt, sourcesAt, hcontent, hold]
      rfl
  | none =>
      rw [hold] at hcontent
      rw [sourcesAt_of_directory hcontent, sourcesAt_of_directory hold,
        Workspace.map_fst_filterMap, Workspace.map_fst_filterMap,
        Workspace.map_fst_filesUnder_withContent]

/-- There are files to analyse exactly if there have been some before. -/
theorem isEmpty_sourcesAt_withContent (w : Workspace) (p : Place) (c : Content) (s : Settings)
    (q : Place) :
    (sourcesAt (w.withContent p c) s q).isEmpty = (sourcesAt w s q).isEmpty := by
  rw [← List.isEmpty_map, map_fst_sourcesAt_withContent, List.isEmpty_map]

end SourceAtlas
