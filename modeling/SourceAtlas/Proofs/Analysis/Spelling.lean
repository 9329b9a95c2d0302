import SourceAtlas.Proofs.Analysis.Enriched
import SourceAtlas.Proofs.Enrichment.Spelling

/-! # Analyses and the spelling of paths

    Two lists of files that are the same but for the spelling of their paths are
    analysed alike.  The language of a file and its place among those that are
    taken come from the canonical path (`outlineAt?_canonical`), so both analyses
    take the same files and leave the same files out, and graphs, figures and
    enrichments only see outlines in canonical spelling.  What differs are the
    paths that are shown as they were given (`Analysis.Respelled`).

    One thing is not a matter of the canonical path.  An item is refused if its
    path is blank as it was given (`sourceOf_eq_ok_iff`), and a path can be blank
    in one spelling and not in another.  So `analyze_respelled` asks that no path
    is blank, and `analyze_blank_refused` shows that this is needed. -/

namespace SourceAtlas

/-! ## The same but for the spelling -/

/-- Two files are the same but for the spelling of their paths. -/
structure SourceFile.Respelled (f f' : SourceFile) : Prop where
  path : Path.normalize f'.path = Path.normalize f.path
  content : f'.content = f.content

/-- Two outlines are the same but for the spelling of their paths, which are also the texts of their
    roots. -/
structure Outline.Respelled (o o' : Outline) : Prop where
  id : o'.nodeId = o.nodeId
  rest : o' = { o with path := o'.path }

/-- Two entries for one import, with the path of its file in different spellings. -/
structure Unresolved.Respelled (u u' : Unresolved) : Prop where
  file : Path.normalize u'.file = Path.normalize u.file
  target : u'.target = u.target

/-- Two analyses are the same but for the spelling of paths: in the outlines, in the labels of the
    imports that mean no file, and in the list of the files that were left out. -/
structure Analysis.Respelled (a a' : Analysis) : Prop where
  files : List.Forall₂ Outline.Respelled a.files a'.files
  figures : a'.stats = a.stats.relisted a'.stats.unresolved a'.stats.skipped
  labels : a.stats.unresolved = (resolve a.files).labels
    ∧ a'.stats.unresolved = (resolve a'.files).labels
  unresolved : List.Forall₂ Unresolved.Respelled (resolve a.files).unresolved.toList
    (resolve a'.files).unresolved.toList
  skipped : List.Forall₂ (fun p p' => Path.normalize p' = Path.normalize p) a.stats.skipped
    a'.stats.skipped
  structural : a'.structural = a.structural
  cycles : a'.cycles = a.cycles
  enrichment : a'.enrichment = a.enrichment
  requests : a'.requests = a.requests
  /-- The graph that is shown. -/
  graph : a'.graph = a.graph

/-- A file with its path in canonical spelling. -/
def SourceFile.canonical (f : SourceFile) : SourceFile :=
  { f with path := Path.normalize f.path }

theorem SourceFile.respelled_iff (f f' : SourceFile) :
    f.Respelled f' ↔ f'.canonical = f.canonical := by
  constructor
  · rintro ⟨hpath, hcontent⟩
    rw [canonical, canonical, hpath, hcontent]
  · intro h
    obtain ⟨hpath, hcontent⟩ := SourceFile.mk.inj h
    exact ⟨hpath, hcontent⟩

theorem Outline.respelled_iff (o o' : Outline) :
    o.Respelled o' ↔ o'.canonical = o.canonical := by
  constructor
  · rintro ⟨hid, hrest⟩
    have hsame := congrArg (fun p : Outline => { p with path := o.nodeId }) hrest
    rw [canonical, canonical, hid]
    exact hsame
  · intro h
    obtain ⟨hid, hlanguage, hitems, hfunctions, htypes, himports, hlines, hcomments, hscope,
      hdegraded, hcontent⟩ := Outline.mk.inj h
    refine ⟨hid, ?_⟩
    rw [← hlanguage, ← hitems, ← hfunctions, ← htypes, ← himports, ← hlines, ← hcomments,
      ← hscope, ← hdegraded, ← hcontent]

theorem Unresolved.respelled_iff (u u' : Unresolved) :
    u.Respelled u' ↔ u'.canonical = u.canonical := by
  constructor
  · rintro ⟨hfile, htarget⟩
    rw [canonical, canonical, hfile, htarget]
  · intro h
    obtain ⟨htarget, hfile⟩ := Unresolved.mk.inj h
    exact ⟨hfile, htarget⟩

/-- Lists agree entry by entry in what a function shows of the entries if it shows the same of the
    lists. -/
theorem forall₂_iff_map_eq {α β : Type} {g : α → β} {R : α → α → Prop}
    (hR : ∀ x y, R x y ↔ g y = g x) {xs ys : List α} :
    List.Forall₂ R xs ys ↔ ys.map g = xs.map g := by
  rw [eq_comm, ← List.forall₂_eq_eq_eq, List.forall₂_map_left_iff, List.forall₂_map_right_iff]
  constructor
  · exact List.Forall₂.imp fun x y hxy => ((hR x y).mp hxy).symm
  · exact List.Forall₂.imp fun x y hxy => (hR x y).mpr hxy.symm

/-! ## What becomes of the files -/

/-- An extractor does not look at how a path is spelled. -/
def Extractor.IgnoresSpelling (extractor : Extractor) : Prop :=
  ∀ l f, (extractor l f.canonical).toOption.map Outline.canonical
    = (extractor l f).toOption.map Outline.canonical

theorem ignoresSpelling_usualExtractor : Extractor.IgnoresSpelling usualExtractor := by
  intro l f
  have htext : f.canonical.text.toOption = f.text.toOption := by
    unfold SourceFile.text SourceFile.canonical
    dsimp only
    cases f.content with
    | text s => rfl
    | bytes data =>
        dsimp only
        cases Utf8.decode data <;> rfl
  have houtline : ∀ s, (Outline.ofText f.canonical.path l s).canonical
      = (Outline.ofText f.path l s).canonical := by
    intro s
    unfold Outline.canonical Outline.nodeId Outline.ofText Outline.ofLines SourceFile.canonical
    dsimp only
    rw [Path.normalize_normalize]
  have hmap : ∀ e : Except Failure String, ∀ g : String → Outline,
      (e.map g).toOption = e.toOption.map g := by
    intro e g
    cases e <;> rfl
  unfold usualExtractor SourceFile.outline
  rw [hmap, hmap, htext, Option.map_map, Option.map_map]
  exact congrArg (f.text.toOption.map ·) (funext houtline)

-- Whether a file is taken does not depend on what its canonical path looks like.
attribute [local irreducible] Path.normalize

section

variable {o : AnalysisOptions} (hextractor : o.extractor.IgnoresSpelling)

include hextractor

/-- The outline of a file at a place comes from the canonical path. -/
theorem outlineAt?_canonical (p : SourceFile × Nat) :
    (o.outlineAt? (p.map SourceFile.canonical id)).map Outline.canonical
      = (o.outlineAt? p).map Outline.canonical := by
  obtain ⟨f, place⟩ := p
  have hlanguage : Language.ofPath? f.canonical.path = Language.ofPath? f.path :=
    Language.ofPath?_normalize f.path
  rw [Prod.map_apply, id]
  cases hfound : Language.ofPath? f.path with
  | none =>
      rw [o.outlineAt?_of_no_language hfound, o.outlineAt?_of_no_language (hlanguage.trans hfound)]
  | some l =>
      rw [o.outlineAt?_of_language place hfound,
        o.outlineAt?_of_language place (hlanguage.trans hfound)]
      unfold AnalysisOptions.outline
      dsimp only
      cases o.mishap place with
      | some failure => rfl
      | none => exact hextractor l f

/-- The canonical spelling decides nothing about which files are taken. -/
theorem takes_canonical (p : SourceFile × Nat) :
    o.takes (p.map SourceFile.canonical id) = o.takes p := by
  have h := congrArg Option.isSome (outlineAt?_canonical hextractor p)
  rwa [Option.isSome_map, Option.isSome_map] at h

theorem map_canonical_files (sources : List SourceFile) :
    ((sources.map (·.canonical)).zipIdx.filterMap o.outlineAt?).map Outline.canonical
      = (sources.zipIdx.filterMap o.outlineAt?).map Outline.canonical := by
  rw [List.zipIdx_map, List.map_filterMap, List.map_filterMap, List.filterMap_map]
  refine List.filterMap_congr fun p _ => ?_
  rw [Function.comp_apply, outlineAt?_canonical hextractor p]

theorem map_normalize_leftOut (sources : List SourceFile) :
    (o.leftOut (sources.map (·.canonical))).map (fun p => Path.normalize p.1.path)
      = (o.leftOut sources).map fun p => Path.normalize p.1.path := by
  have hleft : (fun p => !o.takes p) ∘ Prod.map SourceFile.canonical id
      = fun p => !o.takes p := by
    funext p
    rw [Function.comp_apply, takes_canonical hextractor p]
  unfold AnalysisOptions.leftOut
  rw [List.zipIdx_map, List.filter_map, hleft, List.map_map]
  refine List.map_congr_left fun p _ => ?_
  rw [Function.comp_apply, Prod.map_fst]
  exact Path.normalize_normalize p.1.path

end

/-! ## Analyses -/

/-- Analyses of outlines that are the same but for the spelling. -/
theorem respelled_ofOutlines {cycleLimit : Option Nat} {files files' : List Outline}
    {skipped skipped' : List String}
    (hfiles : files'.map Outline.canonical = files.map Outline.canonical)
    (hskipped : skipped'.map Path.normalize = skipped.map Path.normalize) :
    (Analysis.ofOutlines cycleLimit files skipped).Respelled
      (Analysis.ofOutlines cycleLimit files' skipped') := by
  have hgraph : (resolve files').graph = (resolve files).graph := graph_resolve_respelled hfiles
  have hfigures : ProjectStats.ofOutlines files' = ProjectStats.ofOutlines files := by
    rw [← ProjectStats.ofOutlines_canonical files', hfiles, ProjectStats.ofOutlines_canonical]
  refine
    { files := (forall₂_iff_map_eq Outline.respelled_iff).mpr hfiles
      figures := ?_
      labels := ⟨rfl, rfl⟩
      unresolved := (forall₂_iff_map_eq Unresolved.respelled_iff).mpr
        (unresolved_resolve_respelled hfiles)
      skipped := (forall₂_iff_map_eq fun _ _ => Iff.rfl).mpr hskipped
      structural := hgraph
      cycles := congrArg (Graph.cycles · cycleLimit) hgraph
      enrichment := rfl
      requests := rfl
      graph := hgraph }
  exact congrArg (ProjectStats.relisted · _ _) hfigures

/-- Files that are the same but for the spelling are analysed alike, up to the enrichment. -/
theorem analyzeStructure_respelled {o : AnalysisOptions}
    (hextractor : o.extractor.IgnoresSpelling) {sources sources' : List SourceFile}
    (h : sources'.map SourceFile.canonical = sources.map SourceFile.canonical) :
    (analyzeStructure o sources).Respelled (analyzeStructure o sources') := by
  rw [analyzeStructure_eq, analyzeStructure_eq]
  refine respelled_ofOutlines ?_ ?_
  · rw [← map_canonical_files hextractor sources', h, map_canonical_files hextractor]
  · rw [List.map_map, List.map_map]
    exact (map_normalize_leftOut hextractor sources').symm.trans
      (h ▸ map_normalize_leftOut hextractor sources)

namespace Analysis.Respelled

variable {a a' : Analysis} (h : a.Respelled a')

include h

/-- The enrichments of such analyses are the same. -/
theorem run_eq (c : Controller) (l : EnrichmentLimits) (provider : Option Provider) :
    c.run l provider a'.files a'.stats a'.structural
      = c.run l provider a.files a.stats a.structural := by
  have hfiles : a'.files.map Outline.canonical = a.files.map Outline.canonical :=
    (forall₂_iff_map_eq Outline.respelled_iff).mp h.files
  -- The labels may differ, but there are as many of them.
  have hlength : a'.stats.unresolved.length = a.stats.unresolved.length := by
    rw [h.labels.1, h.labels.2, Resolution.labels, Resolution.labels, List.length_map,
      List.length_map, h.unresolved.length_eq]
  rw [h.structural, h.figures, Controller.run_relisted _ _ _ _ hlength,
    ← Controller.run_canonical a'.files, hfiles, Controller.run_canonical]

/-- The same enrichment keeps such analyses alike. -/
theorem enriched (e : EnrichmentOutcome) (requests : Array String) :
    { a with enrichment := some e, requests : Analysis }.Respelled
      { a' with enrichment := some e, requests } := by
  exact { h with
    enrichment := rfl
    requests := rfl
    graph := congrArg e.graph h.structural }

end Analysis.Respelled

/-- Files that are the same but for the spelling are analysed alike, or break the enrichment in the
    same way. -/
theorem analyzeSources_respelled {o : AnalysisOptions} (hextractor : o.extractor.IgnoresSpelling)
    {sources sources' : List SourceFile} (h : List.Forall₂ SourceFile.Respelled sources sources') :
    (∃ a a', analyzeSources o sources = .ok a ∧ analyzeSources o sources' = .ok a'
      ∧ a.Respelled a')
    ∨ (o.enrich = true ∧ ∃ b, analyzeSources o sources = .error b
      ∧ analyzeSources o sources' = .error b) := by
  have hbase := analyzeStructure_respelled hextractor
    ((forall₂_iff_map_eq SourceFile.respelled_iff).mp h)
  unfold analyzeSources
  dsimp only
  rw [hbase.run_eq]
  cases o.enrich with
  | false => exact Or.inl ⟨_, _, rfl, rfl, hbase⟩
  | true =>
      -- Both analyses ask for the same, so there is one run, whatever comes of it.
      generalize Controller.run (ν := Int) _ _ _ _ _ _ = run
      obtain ⟨c, b | e⟩ := run
      · exact Or.inr ⟨rfl, b, rfl, rfl⟩
      · exact Or.inl ⟨_, _, rfl, rfl, hbase.enriched e c.requests⟩

/-- **SPELLINGS DO NOT MATTER**: if the paths of an accepted list are spelled in other ways, and
    none of them is blank, then the other list is accepted too and its analysis is the same but for
    the spelling.  Only an enrichment can break, and it breaks in both or in neither. -/
theorem analyze_respelled {o : AnalysisOptions} {input : Value} {mk : List Value → Value}
    {items : List Value} {sources sources' : List SourceFile}
    (hextractor : o.extractor.IgnoresSpelling) (hsources : sourcesOf input = .ok sources)
    (hmk : mk = .list ∨ mk = .tuple) (hitems : List.Forall₂ Value.Gives items sources')
    (hrespelled : List.Forall₂ SourceFile.Respelled sources sources')
    (hnamed : ∀ f ∈ sources', ¬ f.IsUnnamed) :
    (∃ a a', analyze o input = .ok a ∧ analyze o (mk items) = .ok a' ∧ a.Respelled a')
    ∨ (o.enrich = true ∧ ∃ b, analyze o input = .error (.breakdown b)
      ∧ analyze o (mk items) = .error (.breakdown b)) := by
  have hsources' : sourcesOf (mk items) = .ok sources' :=
    (sourcesOf_eq_ok_iff hmk hitems).mpr hnamed
  rw [analyze, analyze, hsources, hsources']
  dsimp only
  rcases analyzeSources_respelled hextractor hrespelled with
    ⟨a, a', ha, ha', hsame⟩ | ⟨henrich, b, hb, hb'⟩
  · rw [ha, ha']
    exact Or.inl ⟨a, a', rfl, rfl, hsame⟩
  · rw [hb, hb']
    exact Or.inr ⟨henrich, b, rfl, rfl⟩

/-- The figures of an analysis are made before the enrichment. -/
theorem stats_of_analyze {o : AnalysisOptions} {input : Value} {sources : List SourceFile}
    {a : Analysis} (h : analyze o input = .ok a) (hsources : sourcesOf input = .ok sources) :
    a.stats = (analyzeStructure o sources).stats := by
  obtain ⟨sources', hsources', hrun⟩ := analyze_eq_ok_iff.mp h
  obtain rfl : sources = sources' := Except.ok.inj (hsources.symm.trans hsources')
  exact (eq_of_analyzeSources hrun).2

/-- Three files, of which the first has an import that means no file and the last has no
    language. -/
def plainSources : List SourceFile :=
  [⟨"a.py", .text "import pkg.b\nimport nope\n"⟩, ⟨"pkg/b.py", .text ""⟩, ⟨"c.xyz", .text ""⟩]

/-- The same files with their paths spelled in other ways. -/
def spelledSources : List SourceFile :=
  [⟨".\\a.py", .text "import pkg.b\nimport nope\n"⟩, ⟨"././pkg\\b.py", .text ""⟩,
    ⟨"./c.xyz", .text ""⟩]

/-- Files as pairs of their paths and contents. -/
def pairsOf (sources : List SourceFile) : List Value :=
  sources.map fun f => .list [.text f.path, match f.content with
    | .text s => .text s
    | .bytes data => .bytes data]

/-- The analysis is the same, but each path is shown as it was given. -/
theorem analyze_respelled_backslashes : ∃ a a',
    analyze {} (.list (pairsOf plainSources)) = .ok a
    ∧ analyze {} (.list (pairsOf spelledSources)) = .ok a' ∧ a.Respelled a'
    ∧ a.stats.unresolved = ["a.py: nope"] ∧ a'.stats.unresolved = [".\\a.py: nope"] := by
  have hsources : sourcesOf (.list (pairsOf plainSources)) = .ok plainSources := by decide +kernel
  have hitems : List.Forall₂ Value.Gives (pairsOf spelledSources) spelledSources :=
    .cons ⟨_, rfl, rfl⟩ (.cons ⟨_, rfl, rfl⟩ (.cons ⟨_, rfl, rfl⟩ .nil))
  have hrespelled : List.Forall₂ SourceFile.Respelled plainSources spelledSources :=
    .cons ⟨by decide +kernel, rfl⟩
      (.cons ⟨by decide +kernel, rfl⟩ (.cons ⟨by decide +kernel, rfl⟩ .nil))
  have hnamed : ∀ f ∈ spelledSources, ¬ f.IsUnnamed := by
    unfold SourceFile.IsUnnamed
    decide +kernel
  rcases analyze_respelled (o := {}) ignoresSpelling_usualExtractor hsources (Or.inl rfl) hitems
      hrespelled hnamed with ⟨a, a', ha, ha', hsame⟩ | ⟨henrich, -⟩
  · have hstats := stats_of_analyze ha hsources
    have hstats' := stats_of_analyze ha' ((sourcesOf_eq_ok_iff (Or.inl rfl) hitems).mpr hnamed)
    refine ⟨a, a', ha, ha', hsame, ?_, ?_⟩
    · rw [hstats]
      decide +kernel
    · rw [hstats']
      decide +kernel
  · exact nomatch henrich

/-- The empty path is another spelling of `./`.  But it is blank as it was given, so a list with it
    is refused. -/
theorem analyze_blank_refused :
    SourceFile.Respelled ⟨"./", .text "x"⟩ ⟨"", .text "x"⟩
    ∧ (∃ a, analyze {} (.list (pairsOf [⟨"./", .text "x"⟩])) = .ok a)
    ∧ analyze {} (.list (pairsOf [⟨"", .text "x"⟩]))
      = .error (.input (fatalInput "File #0: path must be a non-empty string, got str")) := by
  have hsources : sourcesOf (.list (pairsOf [⟨"./", .text "x"⟩]))
      = .ok [⟨"./", .text "x"⟩] := by decide +kernel
  have hrefused : sourcesOf (.list (pairsOf [⟨"", .text "x"⟩]))
      = .error (fatalInput "File #0: path must be a non-empty string, got str") := by
    decide +kernel
  refine ⟨⟨by decide +kernel, rfl⟩, ?_, ?_⟩
  · rw [analyze, hsources]
    exact ⟨_, rfl⟩
  · rw [analyze, hrefused]

end SourceAtlas
