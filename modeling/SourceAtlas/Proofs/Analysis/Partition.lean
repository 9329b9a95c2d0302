import Mathlib.Data.List.Forall2
import Mathlib.Data.List.Nodup
import SourceAtlas.Analysis.Basic
import SourceAtlas.Proofs.Analysis.Input

/-! # What becomes of the files of a project

    A file is taken if it has a language and can be outlined, and otherwise it is
    left out.  Files without a language are found before the others are outlined,
    so the left-out files come in two lots (`outlineAll_classifyFrom`); sorted by
    their places they are what is left of the input in its own order
    (`pathsInOrder_of_perm`).

    So every analysis parts its input: the outlines belong to the files that are
    taken, the paths in the figures to those that are left out, both in the order
    of the input, and every place of the input is in one of the two
    (`parts_of_analyze`).  Files are told apart by their places, so paths may
    repeat. -/

namespace SourceAtlas

/-! ## Files at their places -/

namespace AnalysisOptions

/-- The outline of the file at a place, if it has a language and nothing goes wrong. -/
def outlineAt? (o : AnalysisOptions) (p : SourceFile × Nat) : Option Outline :=
  match Language.ofPath? p.1.path with
  | some l => (o.outline ⟨p.2, l, p.1⟩).toOption
  | none => none

/-- The file at a place has an outline. -/
def takes (o : AnalysisOptions) (p : SourceFile × Nat) : Bool :=
  (o.outlineAt? p).isSome

/-- The files with an outline, with their places. -/
def taken (o : AnalysisOptions) (sources : List SourceFile) : List (SourceFile × Nat) :=
  sources.zipIdx.filter o.takes

/-- The files without an outline, with their places. -/
def leftOut (o : AnalysisOptions) (sources : List SourceFile) : List (SourceFile × Nat) :=
  sources.zipIdx.filter (!o.takes ·)

variable (o : AnalysisOptions) {f : SourceFile} {place : Nat}

theorem outlineAt?_of_no_language (hlanguage : Language.ofPath? f.path = none) :
    o.outlineAt? (f, place) = none := by
  rw [outlineAt?, hlanguage]

theorem outlineAt?_of_language (place : Nat) {l : Language}
    (hlanguage : Language.ofPath? f.path = some l) :
    o.outlineAt? (f, place) = (o.outline ⟨place, l, f⟩).toOption := by
  rw [outlineAt?, hlanguage]

variable {o} {p : SourceFile × Nat}

theorem takes_of_some {out : Outline} (h : o.outlineAt? p = some out) : o.takes p = true := by
  rw [takes, h]
  rfl

theorem takes_of_none (h : o.outlineAt? p = none) : o.takes p = false := by
  rw [takes, h]
  rfl

theorem left_cons (h : o.outlineAt? p = none) (rest : List (SourceFile × Nat)) :
    (p :: rest).filter (!o.takes ·) = p :: rest.filter (!o.takes ·) :=
  List.filter_cons_of_pos (p := fun p => !o.takes p) (by rw [takes_of_none h]; rfl)

theorem taken_cons {out : Outline} (h : o.outlineAt? p = some out)
    (rest : List (SourceFile × Nat)) :
    (p :: rest).filter (!o.takes ·) = rest.filter (!o.takes ·) :=
  List.filter_cons_of_neg (p := fun p => !o.takes p)
    (by rw [takes_of_some h]; exact Bool.false_ne_true)

theorem outlineAt?_eq_some_iff {out : Outline} :
    o.outlineAt? (f, place) = some out
      ↔ ∃ l, Language.ofPath? f.path = some l ∧ o.mishap place = none
        ∧ o.extractor l f = .ok out := by
  cases hlanguage : Language.ofPath? f.path with
  | none =>
      rw [o.outlineAt?_of_no_language hlanguage]
      exact ⟨nofun, fun ⟨_, h, _⟩ => nomatch h⟩
  | some l =>
      rw [o.outlineAt?_of_language place hlanguage, outline]
      dsimp only
      cases hmishap : o.mishap place with
      | some failure => exact ⟨nofun, fun ⟨_, _, h, _⟩ => nomatch h⟩
      | none =>
          cases hextracted : o.extractor l f with
          | error failure =>
              refine ⟨nofun, ?_⟩
              rintro ⟨l', hl', -, hout⟩
              obtain rfl := Option.some.inj hl'
              exact nomatch hextracted.symm.trans hout
          | ok out' =>
              constructor
              · intro h
                obtain rfl := Option.some.inj h
                exact ⟨l, rfl, rfl, hextracted⟩
              · rintro ⟨l', hl', -, hout⟩
                obtain rfl := Option.some.inj hl'
                exact congrArg some (Except.ok.inj (hextracted.symm.trans hout))

end AnalysisOptions

/-! ## The two lots -/

/-- The entry of a file that is left out. -/
def skipOf (p : SourceFile × Nat) : Skip := ⟨p.2, p.1.path⟩

/-- What is outlined and what is left out, in the search for languages or later. -/
theorem outlineAll_classifyFrom (o : AnalysisOptions) (place : Nat) (sources : List SourceFile) :
    let (classified, unsupported) := classifyFrom place sources
    let (files, failed) := outlineAll o.outline classified
    files = (sources.zipIdx place).filterMap o.outlineAt?
    ∧ (unsupported ++ failed).Perm (((sources.zipIdx place).filter (!o.takes ·)).map skipOf) := by
  induction sources generalizing place with
  | nil => exact ⟨rfl, List.Perm.nil⟩
  | cons f rest ih =>
      obtain ⟨hfiles, hskips⟩ := ih (place + 1)
      rw [List.zipIdx_cons]
      cases hlanguage : Language.ofPath? f.path with
      | none =>
          have hnone : o.outlineAt? (f, place) = none := o.outlineAt?_of_no_language hlanguage
          simp only [classifyFrom, hlanguage]
          rw [List.filterMap_cons_none hnone, AnalysisOptions.left_cons hnone, List.map_cons]
          exact ⟨hfiles, hskips.cons _⟩
      | some l =>
          have hat := o.outlineAt?_of_language place hlanguage
          simp only [classifyFrom, hlanguage, outlineAll]
          cases houtline : o.outline ⟨place, l, f⟩ with
          | ok out =>
              have hsome : o.outlineAt? (f, place) = some out := hat.trans (by rw [houtline]; rfl)
              rw [List.filterMap_cons_some hsome, AnalysisOptions.taken_cons hsome]
              exact ⟨congrArg _ hfiles, hskips⟩
          | error failure =>
              -- The file is behind those without a language, whatever its place.
              have hnone : o.outlineAt? (f, place) = none := hat.trans (by rw [houtline]; rfl)
              rw [List.filterMap_cons_none hnone, AnalysisOptions.left_cons hnone, List.map_cons]
              exact ⟨hfiles, List.perm_middle.trans (hskips.cons _)⟩

/-- Sorting brings the left-out files into the order of their places. -/
theorem pathsInOrder_of_perm {skips inOrder : List Skip} (hperm : skips.Perm inOrder)
    (hplaces : inOrder.Pairwise fun a b => a.place < b.place) :
    pathsInOrder skips = inOrder.map (·.path) := by
  have hsorted : (skips.mergeSort fun a b => a.place ≤ b.place).Pairwise
      fun a b => decide (a.place ≤ b.place) = true := by
    refine List.pairwise_mergeSort ?_ ?_ skips
    · intro a b c hab hbc
      exact decide_eq_true (Nat.le_trans (of_decide_eq_true hab) (of_decide_eq_true hbc))
    · intro a b
      rw [Bool.or_eq_true, decide_eq_true_iff, decide_eq_true_iff]
      exact Nat.le_total a.place b.place
  have hmerged := (List.mergeSort_perm skips fun a b => a.place ≤ b.place).trans hperm
  -- No two files have one place, so the order of the places decides the order of the files.
  have hdistinct : ∀ a b : Skip, a ∈ inOrder → b ∈ inOrder → a.place = b.place → a = b := by
    have hnodup : (inOrder.map (·.place)).Nodup :=
      List.pairwise_map.mpr (hplaces.imp Nat.ne_of_lt)
    intro a b ha hb hplace
    exact List.inj_on_of_nodup_map hnodup ha hb hplace
  have heq : (skips.mergeSort fun a b => a.place ≤ b.place) = inOrder := by
    refine List.Perm.eq_of_pairwise ?_ hsorted
      (hplaces.imp fun h => decide_eq_true (Nat.le_of_lt h)) hmerged
    intro a b ha hb hab hba
    exact hdistinct a b (hmerged.mem_iff.mp ha) hb
      (Nat.le_antisymm (of_decide_eq_true hab) (of_decide_eq_true hba))
  rw [pathsInOrder, heq]

/-! ## Analyses -/

/-- The analysis of files that are outlined already, and of the paths of those that are left out. -/
def Analysis.ofOutlines (cycleLimit : Option Nat) (files : List Outline) (skipped : List String) :
    Analysis :=
  let resolution := resolve files
  { files
    stats := { ProjectStats.ofOutlines files skipped with unresolved := resolution.labels }
    structural := resolution.graph
    cycles := resolution.graph.cycles cycleLimit
    enrichment := none
    requests := #[] }

theorem pairwise_skipOf_leftOut (o : AnalysisOptions) (sources : List SourceFile) :
    ((o.leftOut sources).map skipOf).Pairwise fun a b => a.place < b.place := by
  have hplaces : sources.zipIdx.Pairwise fun p q => p.2 < q.2 := by
    refine List.pairwise_map.mp ?_
    rw [List.zipIdx_map_snd]
    exact List.pairwise_lt_range' 1
  exact List.pairwise_map.mpr (hplaces.filter _)

/-- Up to the enrichment, an analysis is that of the files that are taken. -/
theorem analyzeStructure_eq (o : AnalysisOptions) (sources : List SourceFile) :
    analyzeStructure o sources
      = .ofOutlines o.cycleLimit (sources.zipIdx.filterMap o.outlineAt?)
        ((o.leftOut sources).map (·.1.path)) := by
  obtain ⟨hfiles, hskips⟩ := outlineAll_classifyFrom o 0 sources
  have hskipped := pathsInOrder_of_perm hskips (pairwise_skipOf_leftOut o sources)
  rw [List.map_map] at hskipped
  unfold analyzeStructure
  dsimp only
  rw [hfiles, hskipped]
  rfl

/-- The enrichment of an analysis changes neither its files nor its figures. -/
theorem eq_of_analyzeSources {o : AnalysisOptions} {sources : List SourceFile} {a : Analysis}
    (h : analyzeSources o sources = .ok a) :
    a.files = (analyzeStructure o sources).files
    ∧ a.stats = (analyzeStructure o sources).stats := by
  unfold analyzeSources at h
  dsimp only at h
  split at h
  · split at h
    · obtain rfl := Except.ok.inj h
      exact ⟨rfl, rfl⟩
    · exact nomatch h
  · obtain rfl := Except.ok.inj h
    exact ⟨rfl, rfl⟩

/-! ## The parts of the input -/

/-- An analysis parts its input: every file has a place among those that are taken or among those
    that are left out, in the order of the input. -/
structure Parts (o : AnalysisOptions) (sources : List SourceFile) (a : Analysis) : Prop where
  outlines : a.files.map some = (o.taken sources).map o.outlineAt?
  paths : a.files.map (·.path) = (o.taken sources).map (·.1.path)
  skipped : a.stats.skipped = (o.leftOut sources).map (·.1.path)
  places : ((o.taken sources ++ o.leftOut sources).map (·.2)).Perm (List.range sources.length)
  counted : a.stats.fileCount = a.files.length

/-- The files that are taken and those that are left out have all places, each of them once. -/
theorem places_perm (o : AnalysisOptions) (sources : List SourceFile) :
    ((o.taken sources ++ o.leftOut sources).map (·.2)).Perm (List.range sources.length) := by
  have hparts := (List.filter_append_perm o.takes sources.zipIdx).map (·.2)
  rw [List.zipIdx_map_snd, ← List.range_eq_range'] at hparts
  exact hparts

theorem map_outlineAt?_taken (o : AnalysisOptions) (sources : List SourceFile) :
    (o.taken sources).map o.outlineAt? = (sources.zipIdx.filterMap o.outlineAt?).map some := by
  unfold AnalysisOptions.taken
  induction sources.zipIdx with
  | nil => rfl
  | cons p rest ih =>
      cases h : o.outlineAt? p with
      | none =>
          rw [List.filter_cons_of_neg (by rw [AnalysisOptions.takes_of_none h]; nofun),
            List.filterMap_cons_none h, ih]
      | some out =>
          rw [List.filter_cons_of_pos (AnalysisOptions.takes_of_some h),
            List.filterMap_cons_some h, List.map_cons, h, ih, List.map_cons]

/-- An extractor keeps the path of the file. -/
def Extractor.KeepsPaths (extractor : Extractor) : Prop :=
  ∀ l f out, extractor l f = .ok out → out.path = f.path

theorem keepsPaths_usualExtractor : Extractor.KeepsPaths usualExtractor := by
  intro l f out h
  unfold usualExtractor SourceFile.outline at h
  cases htext : f.text with
  | error failure =>
      rw [htext] at h
      exact nomatch h
  | ok content =>
      rw [htext] at h
      obtain rfl := Except.ok.inj h
      rfl

/-- The outlines have the paths of the files that are taken. -/
theorem map_path_filterMap {o : AnalysisOptions} (hextractor : o.extractor.KeepsPaths)
    (l : List (SourceFile × Nat)) :
    (l.filterMap o.outlineAt?).map (·.path) = (l.filter o.takes).map (·.1.path) := by
  have hpath : ∀ p : SourceFile × Nat, (o.outlineAt? p).map (·.path)
      = if o.takes p = true then some p.1.path else none := by
    intro p
    cases h : o.outlineAt? p with
    | none => rw [if_neg (by rw [AnalysisOptions.takes_of_none h]; nofun), Option.map_none]
    | some out =>
        obtain ⟨l, -, -, hout⟩ := AnalysisOptions.outlineAt?_eq_some_iff.mp h
        rw [if_pos (AnalysisOptions.takes_of_some h), Option.map_some, hextractor l p.1 out hout]
  rw [List.map_filterMap, ← List.filterMap_eq_map, List.filterMap_filter]
  exact List.filterMap_congr fun p _ => hpath p

/-- **PARTITION**: whatever goes wrong with single files, an analysis parts its input into the files
    that are taken and those that are left out, and together they are as many as the items of the
    input.  Without an enrichment there always is an analysis. -/
theorem parts_of_analyze {o : AnalysisOptions} {mk : List Value → Value} {items : List Value}
    {sources : List SourceFile} (hmk : mk = .list ∨ mk = .tuple)
    (hsources : sourcesOf (mk items) = .ok sources) (hextractor : o.extractor.KeepsPaths) :
    (o.enrich = false → ∃ a, analyze o (mk items) = .ok a)
    ∧ ∀ a, analyze o (mk items) = .ok a → Parts o sources a
      ∧ a.stats.fileCount + a.stats.skipped.length = items.length := by
  have hanalyze : analyze o (mk items) = (analyzeSources o sources).mapError .breakdown := by
    rw [analyze, hsources]
    dsimp only
    cases analyzeSources o sources <;> rfl
  have hlength : items.length = sources.length := by
    rcases hmk with rfl | rfl <;> exact (sourcesFrom_eq_ok_iff.mp hsources).length_eq
  constructor
  · intro henrich
    refine ⟨analyzeStructure o sources, ?_⟩
    rw [hanalyze, analyzeSources, henrich]
    rfl
  · intro a ha
    rw [hanalyze] at ha
    cases hresult : analyzeSources o sources with
    | error b =>
        rw [hresult] at ha
        exact nomatch ha
    | ok a' =>
        rw [hresult] at ha
        obtain rfl := Except.ok.inj ha
        obtain ⟨hfiles, hstats⟩ := eq_of_analyzeSources hresult
        rw [analyzeStructure_eq] at hfiles hstats
        have hplaces := places_perm o sources
        have hparts : Parts o sources a' := by
          refine ⟨?_, ?_, ?_, hplaces, ?_⟩
          · rw [hfiles]
            exact (map_outlineAt?_taken o sources).symm
          · rw [hfiles]
            exact map_path_filterMap hextractor _
          · rw [hstats]
            rfl
          · rw [hstats, hfiles]
            rfl
        refine ⟨hparts, ?_⟩
        have htaken : a'.files.length = (o.taken sources).length := by
          have h := congrArg List.length hparts.outlines
          rwa [List.length_map, List.length_map] at h
        have hall := hplaces.length_eq
        rw [List.length_map, List.length_append, List.length_range] at hall
        rw [hparts.counted, hparts.skipped, List.length_map, htaken, hlength, ← hall]
        exact (Int.natCast_add ..).symm

/-- Five files with two paths of which one has no language, one is not in UTF-8, and one cannot be
    outlined for another reason. -/
def mixedSources : List SourceFile :=
  [⟨"a.py", .text "import b\n"⟩, ⟨"a.xyz", .text "b"⟩, ⟨"a.py", .bytes [0x61, 0xff]⟩,
    ⟨"b.py", .text "import a\n"⟩, ⟨"b.py", .bytes [0x61, 0x0a]⟩]

/-- The files in the forms in which they may be given. -/
def mixedItems : List Value :=
  mixedSources.mapIdx fun i f =>
    let content : Value := match f.content with
      | .text s => .text s
      | .bytes data => .bytes data
    if i % 2 = 0 then .tuple [.text f.path, content]
    else .record [("content", content), ("path", .text f.path)]

/-- The fourth file cannot be outlined. -/
def mixedOptions : AnalysisOptions :=
  { mishap := fun place => if place = 3 then some ⟨.extractionFailed, "", none⟩ else none }

/-- Files are told apart by their places, also if their paths are the same. -/
theorem parts_of_analyze_mixed :
    sourcesOf (.list mixedItems) = .ok mixedSources
    ∧ mixedOptions.extractor.KeepsPaths
    ∧ ∃ a, analyze mixedOptions (.list mixedItems) = .ok a
      ∧ a.files.map (·.path) = ["a.py", "b.py"]
      ∧ a.stats.skipped = ["a.xyz", "a.py", "b.py"]
      ∧ a.stats.fileCount + a.stats.skipped.length = mixedItems.length := by
  have hsources : sourcesOf (.list mixedItems) = .ok mixedSources := by decide +kernel
  have hextractor : mixedOptions.extractor.KeepsPaths := keepsPaths_usualExtractor
  have htaken : (mixedOptions.taken mixedSources).map (·.1.path) = ["a.py", "b.py"] := by
    decide +kernel
  have hleft : (mixedOptions.leftOut mixedSources).map (·.1.path) = ["a.xyz", "a.py", "b.py"] := by
    decide +kernel
  obtain ⟨hexists, hparts⟩ := parts_of_analyze (Or.inl rfl) hsources hextractor
  obtain ⟨a, ha⟩ := hexists rfl
  obtain ⟨hpartition, hcount⟩ := hparts a ha
  exact ⟨hsources, hextractor, a, ha, hpartition.paths.trans htaken,
    hpartition.skipped.trans hleft, hcount⟩

end SourceAtlas
