import SourceAtlas.Proofs.Analysis.Partition
import SourceAtlas.Proofs.Enrichment.Overlay
import SourceAtlas.Proofs.Enrichment.Returns

/-! # What an enrichment leaves alone

    An enrichment comes last.  Whatever the provider answers, and whether or not
    it is asked at all, the rest of an analysis is that of the same files without
    an enrichment (`unenriched_of_analyzeSources`).  So two analyses of the same
    input agree in all of it (`analyze_untouched`).

    What an enrichment decides is which graph is shown.  A run ends in a fallback
    or with an answer that is used (`EnrichmentOutcome.HasEnded`), and only an answer whose
    graph has edges takes the place of the structural graph (`ShowsGraph`). -/

namespace SourceAtlas

/-! ## The outcome of a run -/

/-- The ways in which a run ends: it has fallen back and brings no graph, or it has used an answer,
    and its graph is built from the answer and the files unless it has no edges. -/
def EnrichmentOutcome.HasEnded {ν : Type} (e : EnrichmentOutcome) (outlines : List (Outline ν)) :
    Prop :=
  (e.phase = .fallback ∧ e.overlay = none)
  ∨ (e.phase = .merged
    ∧ e.overlay = (e.assessment.overlay.filter (!·.isEmpty)).map (·.graph outlines))

namespace Controller

section

variable {ν : Type} [Figure ν] {c : Controller} {l : EnrichmentLimits}
  {provider : Option Provider} {outlines : List (Outline ν)} {s : ProjectStats ν} {g : Graph}

/-- A run that returns has fallen back or used an answer. -/
theorem hasEnded_of_run {e : EnrichmentOutcome} (h : (c.run l provider outlines s g).2 = .ok e) :
    e.HasEnded outlines := by
  have hcourse := run_course c l provider outlines s g
  generalize c.run l provider outlines s g = r at hcourse h
  cases hcourse with
  | unwritten => exact nomatch h
  | cutShort => exact nomatch h
  | unanswered => exact Or.inl (fallback_of_fallBack h)
  | unreadable => exact nomatch h
  | rejected => exact Or.inl (fallback_of_fallBack h)
  | accepted =>
      obtain rfl := Except.ok.inj h
      exact Or.inr ⟨rfl, rfl⟩

end

end Controller

/-! ## Analyses with and without an enrichment -/

namespace Analysis

/-- An analysis without what an enrichment adds to it. -/
def unenriched (a : Analysis) : Analysis :=
  { a with enrichment := none, requests := #[] }

/-- Two analyses agree in everything that does not come from a provider. -/
structure Agree (a a' : Analysis) : Prop where
  files : a'.files = a.files
  stats : a'.stats = a.stats
  cycles : a'.cycles = a.cycles
  structural : a'.structural = a.structural

/-- Which graph an analysis shows. -/
structure ShowsGraph (a : Analysis) : Prop where
  unasked : a.enrichment = none → a.graph = a.structural
  /-- An enrichment has fallen back or used an answer. -/
  ended : ∀ e, a.enrichment = some e → e.phase = .fallback ∨ e.phase = .merged
  fallback : ∀ e, a.enrichment = some e → e.phase = .fallback → a.graph = a.structural
  /-- An answer without a graph, or with one that has no edges, leaves the structural graph. -/
  edgeless : ∀ e, a.enrichment = some e → e.phase = .merged →
    (∀ overlay, e.assessment.overlay = some overlay → overlay.edges = []) →
    a.graph = a.structural
  /-- Any other graph of an answer is shown, and it is built from the answer and the files. -/
  overlaid : ∀ e overlay, a.enrichment = some e → e.phase = .merged →
    e.assessment.overlay = some overlay → overlay.edges ≠ [] →
    a.graph = overlay.graph a.files

theorem agree_of_unenriched_eq {a a' : Analysis} (h : a'.unenriched = a.unenriched) :
    a.Agree a' := by
  obtain ⟨hfiles, hstats, hstructural, hcycles, -, -⟩ := Analysis.mk.inj h
  exact ⟨hfiles, hstats, hcycles, hstructural⟩

end Analysis

section

variable {o o' : AnalysisOptions} {sources : List SourceFile} {a a' : Analysis}

/-- An analysis returns if the input is accepted and the analysis of its files returns. -/
theorem analyze_eq_ok_iff {input : Value} :
    analyze o input = .ok a
      ↔ ∃ sources, sourcesOf input = .ok sources ∧ analyzeSources o sources = .ok a := by
  constructor
  · intro h
    unfold analyze at h
    split at h
    · exact nomatch h
    · rename_i sources hsources
      split at h
      · exact nomatch h
      · rename_i a' ha'
        obtain rfl := Except.ok.inj h
        exact ⟨sources, hsources, ha'⟩
  · rintro ⟨sources, hsources, hrun⟩
    rw [analyze, hsources]
    dsimp only
    rw [hrun]

/-- The part of an analysis that is done before the enrichment does not depend on what the options
    say about it. -/
theorem analyzeStructure_congr (hlimit : o'.cycleLimit = o.cycleLimit)
    (hextractor : o'.extractor = o.extractor) (hmishap : o'.mishap = o.mishap) :
    analyzeStructure o' sources = analyzeStructure o sources := by
  have houtline : o'.outline = o.outline := by
    unfold AnalysisOptions.outline
    rw [hextractor, hmishap]
  unfold analyzeStructure
  rw [houtline, hlimit]

/-- **THE ENRICHMENT COMES LAST**: up to it, an analysis is the one without an enrichment. -/
theorem unenriched_of_analyzeSources (h : analyzeSources o sources = .ok a) :
    a.unenriched = analyzeStructure o sources := by
  unfold analyzeSources at h
  dsimp only at h
  split at h
  · split at h
    · obtain rfl := Except.ok.inj h
      rfl
    · exact nomatch h
  · obtain rfl := Except.ok.inj h
    rfl

/-- An enrichment that returns is added to the analysis. -/
theorem analyzeSources_of_run (henrich : o.enrich = true) {e : EnrichmentOutcome}
    (hrun : (Controller.run { isCancelled := o.isCancelled } o.limits o.provider
      (analyzeStructure o sources).files (analyzeStructure o sources).stats
      (analyzeStructure o sources).structural).2 = .ok e) :
    ∃ requests, analyzeSources o sources
      = .ok { analyzeStructure o sources with enrichment := some e, requests } := by
  unfold analyzeSources
  dsimp only
  rw [if_pos henrich]
  generalize Controller.run (ν := Int) _ _ _ _ _ _ = r at hrun ⊢
  obtain ⟨c, result⟩ := r
  dsimp only at hrun ⊢
  rw [hrun]
  exact ⟨c.requests, rfl⟩

/-- The outcome of an enrichment is that of a run with the files of the analysis. -/
theorem outcome_of_analyzeSources (h : analyzeSources o sources = .ok a) {e : EnrichmentOutcome}
    (he : a.enrichment = some e) : e.HasEnded a.files := by
  unfold analyzeSources at h
  dsimp only at h
  generalize hbase : analyzeStructure o sources = base at h
  have hplain : base.enrichment = none := by
    rw [← hbase]
    rfl
  split at h
  · split at h
    · rename_i hrun
      obtain rfl := Except.ok.inj h
      obtain rfl := Option.some.inj he
      exact Controller.hasEnded_of_run (congrArg Prod.snd hrun)
    · exact nomatch h
  · obtain rfl := Except.ok.inj h
    exact nomatch hplain.symm.trans he

end

/-- The graph that is shown goes with the outcome of the run. -/
theorem showsGraph_of_hasEnded {a : Analysis}
    (h : ∀ e, a.enrichment = some e → e.HasEnded a.files) : a.ShowsGraph := by
  have hgraph : ∀ e, a.enrichment = some e → a.graph = e.overlay.getD a.structural := by
    intro e he
    rw [Analysis.graph, he]
    rfl
  refine ⟨?_, fun e he => ?_, fun e he hphase => ?_, fun e he hphase hedgeless => ?_,
    fun e overlay he hphase hoverlay hedges => ?_⟩
  · intro hnone
    rw [Analysis.graph, hnone]
  · exact (h e he).imp And.left And.left
  · rcases h e he with ⟨-, hnone⟩ | ⟨hmerged, -⟩
    · rw [hgraph e he, hnone, Option.getD_none]
    · exact nomatch hphase.symm.trans hmerged
  · rcases h e he with ⟨hfallback, -⟩ | ⟨-, heq⟩
    · exact nomatch hphase.symm.trans hfallback
    · have hfilter : e.assessment.overlay.filter (!·.isEmpty) = none := by
        refine Option.filter_eq_none_iff.mpr fun overlay hoverlay hkeep => ?_
        rw [Overlay.isEmpty, hedgeless overlay hoverlay] at hkeep
        exact nomatch hkeep
      rw [hgraph e he, heq, hfilter, Option.map_none, Option.getD_none]
  · rcases h e he with ⟨hfallback, -⟩ | ⟨-, heq⟩
    · exact nomatch hphase.symm.trans hfallback
    · have hfilter : e.assessment.overlay.filter (!·.isEmpty) = some overlay := by
        rw [hoverlay, Option.filter_some, Overlay.isEmpty, List.isEmpty_eq_false_iff.mpr hedges]
        rfl
      rw [hgraph e he, heq, hfilter, Option.map_some, Option.getD_some]

/-- **THE ENRICHMENT LEAVES THE ANALYSIS ALONE**: two analyses of one input that both return, with
    or without an enrichment, agree in their files, figures, cycles and structural graphs, whatever
    their providers do; and each shows this structural graph unless an answer with edges takes its
    place. -/
theorem analyze_untouched {o o' : AnalysisOptions} {input : Value} {a a' : Analysis}
    (hlimit : o'.cycleLimit = o.cycleLimit) (hextractor : o'.extractor = o.extractor)
    (hmishap : o'.mishap = o.mishap) (ha : analyze o input = .ok a)
    (ha' : analyze o' input = .ok a') : a.Agree a' ∧ a.ShowsGraph ∧ a'.ShowsGraph := by
  obtain ⟨sources, hsources, hrun⟩ := analyze_eq_ok_iff.mp ha
  obtain ⟨sources', hsources', hrun'⟩ := analyze_eq_ok_iff.mp ha'
  obtain rfl : sources = sources' := Except.ok.inj (hsources.symm.trans hsources')
  have hsame : a'.unenriched = a.unenriched := by
    rw [unenriched_of_analyzeSources hrun', unenriched_of_analyzeSources hrun,
      analyzeStructure_congr hlimit hextractor hmishap]
  exact ⟨Analysis.agree_of_unenriched_eq hsame,
    showsGraph_of_hasEnded fun e he => outcome_of_analyzeSources hrun he,
    showsGraph_of_hasEnded fun e he => outcome_of_analyzeSources hrun' he⟩

/-! ## An answer that takes the place of the graph -/

/-- Two files, of which the first imports the second. -/
def importingSources : List SourceFile := [⟨"./a.py", .text "import b\n"⟩, ⟨"b.js", .text ""⟩]

/-- The files in a form in which they may be given. -/
def importingInput : Value :=
  .list [.tuple [.text "./a.py", .text "import b\n"], .tuple [.text "b.js", .text ""]]

/-- Asks a provider that answers with a dependency in the other direction. -/
def overlaidOptions : AnalysisOptions :=
  { enrich := true, provider := some fun _ => .answers (.text spelledAnswer) }

/-- The answer is used. -/
theorem exists_overlaid : ∃ a e, analyze overlaidOptions importingInput = .ok a
    ∧ a.enrichment = some e ∧ e.phase = .merged
    ∧ e.assessment.overlay = some spelledOverlay := by
  have hsources : sourcesOf importingInput = .ok importingSources := by decide +kernel
  have hids : (analyzeStructure overlaidOptions importingSources).files.map (·.nodeId)
      = ["a.py", "b.js"] := by decide +kernel
  have hoverlay : (readAnswer {} ["a.py", "b.js"] spelledAnswer).toOption.bind (·.overlay)
      = some spelledOverlay := by
    rw [readAnswer_spelledAnswer]
    decide +kernel
  obtain ⟨assessment, hread, ho⟩ := exists_readAnswer hoverlay
  have hrun := Controller.run_of_readAnswer (c := {}) (l := {})
    (s := (analyzeStructure overlaidOptions importingSources).stats)
    (g := (analyzeStructure overlaidOptions importingSources).structural) rfl
    (Controller.reply_of_answers rfl (by decide) rfl Controller.strip_spelledAnswer)
    (hids.symm ▸ hread)
  obtain ⟨requests, hanalyze⟩ := analyzeSources_of_run (o := overlaidOptions) rfl hrun
  exact ⟨_, _, analyze_eq_ok_iff.mpr ⟨_, hsources, hanalyze⟩, rfl, rfl, ho⟩

/-- The graph of the answer is shown, and everything else is as if no provider had been asked. -/
theorem analyze_untouched_overlaid : ∃ a a',
    analyze {} importingInput = .ok a ∧ analyze overlaidOptions importingInput = .ok a'
    ∧ a.Agree a' ∧ a.graph = a.structural ∧ a'.graph = spelledOverlay.graph a'.files := by
  have hsources : sourcesOf importingInput = .ok importingSources := by decide +kernel
  have hplain : analyze {} importingInput = .ok (analyzeStructure {} importingSources) := by
    rw [analyze, hsources]
    rfl
  obtain ⟨a', e, ha', he, hphase, hoverlay⟩ := exists_overlaid
  have hlimit : overlaidOptions.cycleLimit = ({} : AnalysisOptions).cycleLimit := rfl
  have hextractor : overlaidOptions.extractor = ({} : AnalysisOptions).extractor := rfl
  have hmishap : overlaidOptions.mishap = ({} : AnalysisOptions).mishap := rfl
  obtain ⟨hagree, hshown, hshown'⟩ := analyze_untouched hlimit hextractor hmishap hplain ha'
  have hedges : spelledOverlay.edges ≠ [] := List.cons_ne_nil _ _
  exact ⟨_, a', hplain, ha', hagree, hshown.unasked rfl,
    hshown'.overlaid e spelledOverlay he hphase hoverlay hedges⟩

end SourceAtlas
