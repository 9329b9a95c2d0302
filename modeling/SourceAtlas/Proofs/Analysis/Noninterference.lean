import SourceAtlas.Proofs.Analysis.Partition

/-! # Files that are left out do not matter

    The files that an analysis leaves out show up in one place, the list of their
    paths.  What a provider is asked does not speak of them (`requestFor_skipped`)
    and neither does a local assessment, so a run of the controller is the same
    with any such list (`run_skipped`), and so is the graph that it gives to be
    shown (`graph_withoutSkipped`).

    If only the files that are taken are analysed, each of them has another place
    but the same outline (`outlineAt?_again`), and none is left out.  So such an
    analysis gives the same files, figures, graphs, cycles, enrichment and
    requests, with an empty list of skipped paths, or it breaks in the same way
    (`analyze_takenItems`). -/

namespace SourceAtlas

/-! ## Analyses without the list of skipped paths -/

/-- The figures of a project with another list of skipped paths. -/
def ProjectStats.skipping {ν : Type} (s : ProjectStats ν) (skipped : List String) :
    ProjectStats ν :=
  { s with skipped }

/-- An analysis without the list of skipped paths. -/
def Analysis.withoutSkipped (a : Analysis) : Analysis :=
  { a with stats := a.stats.skipping [] }

/-- The graph that is shown to the user stays the same. -/
theorem graph_withoutSkipped (a : Analysis) : a.withoutSkipped.graph = a.graph := rfl

namespace Controller

variable {ν : Type} [Figure ν] (c : Controller) (l : EnrichmentLimits)
  (outlines : List (Outline ν)) (s : ProjectStats ν) (g : Graph) (skipped : List String)

theorem requestFor_skipped :
    requestFor l outlines (s.skipping skipped) g = requestFor l outlines s g := rfl

/-- The enrichment does not depend on the list of skipped paths. -/
theorem run_skipped (provider : Option Provider) :
    c.run l provider outlines (s.skipping skipped) g = c.run l provider outlines s g := by
  unfold run
  rw [requestFor_skipped]
  rfl

end Controller

/-- Analyses that agree up to the enrichment, but for the list of skipped paths, agree after it. -/
theorem analyzeSources_withoutSkipped {o o' : AnalysisOptions} {sources sources' : List SourceFile}
    (hstructure : analyzeStructure o' sources' = (analyzeStructure o sources).withoutSkipped)
    (hlimits : o'.limits = o.limits) (henrich : o'.enrich = o.enrich)
    (hprovider : o'.provider = o.provider) (hcancelled : o'.isCancelled = o.isCancelled) :
    analyzeSources o' sources' = (analyzeSources o sources).map Analysis.withoutSkipped := by
  unfold analyzeSources
  rw [hstructure, hlimits, henrich, hprovider, hcancelled]
  generalize analyzeStructure o sources = a
  dsimp only [Analysis.withoutSkipped]
  rw [Controller.run_skipped]
  split
  · split <;> rfl
  · rfl

/-! ## The second analysis -/

namespace AnalysisOptions

/-- An analysis in which nothing goes wrong but what the extractor does. -/
def withoutMishaps (o : AnalysisOptions) : AnalysisOptions :=
  { o with mishap := fun _ => none }

/-- The items of the files that are taken. -/
def takenItems (o : AnalysisOptions) (items : List Value) (sources : List SourceFile) :
    List Value :=
  ((items.zip sources.zipIdx).filter fun p => o.takes p.2).map (·.1)

/-- A file that is taken has the same outline at any other place. -/
theorem outlineAt?_again {o : AnalysisOptions} {f : SourceFile} {place : Nat} {out : Outline}
    (h : o.outlineAt? (f, place) = some out) (place' : Nat) :
    o.withoutMishaps.outlineAt? (f, place') = some out := by
  obtain ⟨l, hlanguage, -, hout⟩ := outlineAt?_eq_some_iff.mp h
  exact outlineAt?_eq_some_iff.mpr ⟨l, hlanguage, rfl, hout⟩

/-- The files that are taken, numbered anew, have their outlines again. -/
theorem map_outlineAt?_again (o : AnalysisOptions) (l : List (SourceFile × Nat)) (place : Nat) :
    (((l.filter o.takes).map (·.1)).zipIdx place).map o.withoutMishaps.outlineAt?
      = (l.filterMap o.outlineAt?).map some := by
  induction l generalizing place with
  | nil => rfl
  | cons p rest ih =>
      cases h : o.outlineAt? p with
      | none =>
          rw [List.filter_cons_of_neg (by rw [takes_of_none h]; nofun), List.filterMap_cons_none h,
            ih]
      | some out =>
          rw [List.filter_cons_of_pos (takes_of_some h), List.filterMap_cons_some h, List.map_cons,
            List.zipIdx_cons, List.map_cons, List.map_cons, outlineAt?_again h, ih]

/-- The items of the files that are taken are taken for these files. -/
theorem forall₂_taken (o : AnalysisOptions) {R : Value → SourceFile → Prop} {items : List Value}
    {sources : List SourceFile} (h : List.Forall₂ R items sources) (place : Nat) :
    List.Forall₂ R (((items.zip (sources.zipIdx place)).filter fun p => o.takes p.2).map (·.1))
      (((sources.zipIdx place).filter o.takes).map (·.1)) := by
  induction h generalizing place with
  | nil => exact List.Forall₂.nil
  | @cons v f items sources hvf _ ih =>
      rw [List.zipIdx_cons, List.zip_cons_cons]
      cases htakes : o.takes (f, place) with
      | false =>
          rw [List.filter_cons_of_neg (by rw [htakes]; nofun),
            List.filter_cons_of_neg (by rw [htakes]; nofun)]
          exact ih (place + 1)
      | true =>
          rw [List.filter_cons_of_pos (by exact htakes), List.filter_cons_of_pos (by exact htakes),
            List.map_cons, List.map_cons]
          exact (ih (place + 1)).cons hvf

end AnalysisOptions

/-- Up to the enrichment, the files that are left out only show up in the list of their paths. -/
theorem analyzeStructure_taken (o : AnalysisOptions) (sources : List SourceFile) :
    analyzeStructure o.withoutMishaps ((o.taken sources).map (·.1))
      = (analyzeStructure o sources).withoutSkipped := by
  have hagain := o.map_outlineAt?_again sources.zipIdx 0
  have hfiles : ((o.taken sources).map (·.1)).zipIdx.filterMap o.withoutMishaps.outlineAt?
      = sources.zipIdx.filterMap o.outlineAt? := by
    have h := congrArg (List.filterMap id) hagain
    rw [List.filterMap_map, List.filterMap_map] at h
    exact h.trans List.filterMap_some
  have hleft : o.withoutMishaps.leftOut ((o.taken sources).map (·.1)) = [] := by
    refine List.filter_eq_nil_iff.mpr fun p hp => ?_
    have hmem := List.mem_map_of_mem (f := o.withoutMishaps.outlineAt?) hp
    rw [AnalysisOptions.taken, hagain] at hmem
    obtain ⟨out, -, hout⟩ := List.mem_map.mp hmem
    rw [AnalysisOptions.takes_of_some hout.symm]
    exact Bool.false_ne_true
  rw [analyzeStructure_eq, analyzeStructure_eq, hfiles, hleft]
  rfl

/-- **NONINTERFERENCE**: the files that an analysis leaves out can be left away.  The files that it
    takes alone give the same files, figures, graphs, cycles, enrichment and requests, and no
    skipped paths; and if one of the two analyses breaks, so does the other. -/
theorem analyze_takenItems (o : AnalysisOptions) {mk : List Value → Value} {items : List Value}
    {sources : List SourceFile} (hmk : mk = .list ∨ mk = .tuple)
    (hsources : sourcesOf (mk items) = .ok sources) :
    analyze o.withoutMishaps (mk (o.takenItems items sources))
      = (analyze o (mk items)).map Analysis.withoutSkipped := by
  have htaken : sourcesOf (mk (o.takenItems items sources))
      = .ok ((o.taken sources).map (·.1)) := by
    rcases hmk with rfl | rfl <;>
      exact sourcesFrom_eq_ok_iff.mpr (o.forall₂_taken (sourcesFrom_eq_ok_iff.mp hsources) 0)
  have hagree : analyzeSources o.withoutMishaps ((o.taken sources).map (·.1))
      = (analyzeSources o sources).map Analysis.withoutSkipped :=
    analyzeSources_withoutSkipped (analyzeStructure_taken o sources) rfl rfl rfl rfl
  rw [analyze, analyze, hsources, htaken]
  dsimp only
  rw [hagree]
  cases analyzeSources o sources <;> rfl

/-- Asks a provider that gives back what it is asked. -/
def echoOptions : AnalysisOptions :=
  { mixedOptions with enrich := true, provider := some fun request => .answers (.text request) }

/-- Two of the five files are taken, and they are analysed as if they stood alone. -/
theorem analyze_takenItems_mixed :
    sourcesOf (.tuple mixedItems) = .ok mixedSources
    ∧ analyze echoOptions.withoutMishaps
        (.tuple [.tuple [.text "a.py", .text "import b\n"],
          .tuple [.text "b.py", .bytes [0x61, 0x0a]]])
      = (analyze echoOptions (.tuple mixedItems)).map Analysis.withoutSkipped := by
  have hsources : sourcesOf (.tuple mixedItems) = .ok mixedSources := by decide +kernel
  have htaken : echoOptions.takenItems mixedItems mixedSources
      = [.tuple [.text "a.py", .text "import b\n"],
        .tuple [.text "b.py", .bytes [0x61, 0x0a]]] := by
    rfl
  rw [← htaken]
  exact ⟨hsources, analyze_takenItems echoOptions (Or.inr rfl) hsources⟩

end SourceAtlas
