import SourceAtlas.Proofs.Enrichment.Reading

/-! # The two layouts of an answer

    Scores, factors and the graph may stand in an answer as flat fields or in
    nested objects.  An answer that uses one layout throughout is read as the
    answer that uses the other one, whatever its values are
    (`ofValue_nestedLayout`).

    Where both are used, a nested object is worth the flat fields that it stands
    for, in camel case, behind those that are there (`lookup_liftNested_adds`).
    So flat fields in camel case win over nested objects.  Fields with low lines
    do not: a field in camel case is put beside them and is read instead
    (`unchanged_iff_camelCase`, `not_unchanged_lowLines`). -/

namespace SourceAtlas.Assessment

variable {halves : Bool} {known : Option (List String)} {entries extra more base : Entries}
  {name : String}

/-- The names of the nested objects. -/
def nestedNames : List String := ["complexity", "quality", "graph"]

/-- The names, in camel case, of the flat fields that nested objects stand for. -/
def flatNames : List String :=
  ["complexityScore", "complexityFactors", "qualityScore", "graphOverlay"]

/-- Nested objects are not among the fields that are read. -/
theorem not_mem_nestedNames (h : name ∈ names) : name ∉ nestedNames := by
  revert name
  decide

theorem flatNames_subset : flatNames ⊆ names := by
  decide

/-- Nested objects stand for these fields only. -/
theorem names_lifted_subset (entries : Entries) : (lifted entries).map (·.1) ⊆ flatNames := by
  rw [lifted, List.map_append, List.map_append, List.append_subset, List.append_subset]
  refine ⟨⟨?_, ?_⟩, ?_⟩
  · cases nested? entries "complexity" with
    | none => exact List.nil_subset _
    | some inner => exact (by decide : ["complexityScore", "complexityFactors"] ⊆ flatNames)
  · cases nested? entries "quality" with
    | none => exact List.nil_subset _
    | some inner => exact (by decide : ["qualityScore"] ⊆ flatNames)
  · cases nested? entries "graph" with
    | none => exact List.nil_subset _
    | some inner => exact (by decide : ["graphOverlay"] ⊆ flatNames)

theorem lookup_lifted_eq_none (entries : Entries) (h : name ∉ flatNames) :
    (lifted entries).lookup name = none :=
  Entries.lookup_eq_none_iff.mpr fun hname => h (names_lifted_subset entries hname)

/-- Further entries with other names do not change what is looked up. -/
theorem lookup_of_adds (h : base.Adds extra more) (hname : name ∉ extra.map (·.1)) :
    more.lookup name = base.lookup name := by
  rw [h, Entries.lookup_eq_none_iff.mpr hname, Option.none_or]

/-! ## One layout or the other -/

/-- Scores, factors and a graph in nested objects. -/
def nestedLayout (score factors quality : Value) (graph : Entries) : Entries :=
  [("complexity", .record [("score", score), ("factors", factors)]),
    ("quality", .record [("score", quality)]), ("graph", .record graph)]

/-- Scores, factors and a graph in flat fields. -/
def flatLayout (score factors quality : Value) (graph : Entries) : Entries :=
  [("complexityScore", score), ("complexityFactors", factors), ("qualityScore", quality),
    ("graphOverlay", .record graph)]

/-- The flat fields that a nested layout stands for are those of the flat layout. -/
theorem lifted_nestedLayout {score factors quality : Value} {graph : Entries}
    (h : base.Adds (nestedLayout score factors quality graph) more) :
    lifted more = flatLayout score factors quality graph := by
  have hcomplexity : more.lookup "complexity"
      = some (.record [("score", score), ("factors", factors)]) := (h _).trans rfl
  have hquality : more.lookup "quality" = some (.record [("score", quality)]) := (h _).trans rfl
  have hgraph : more.lookup "graph" = some (.record graph) := (h _).trans rfl
  unfold lifted nested?
  rw [hcomplexity, hquality, hgraph]
  rfl

/-- **LAYOUTS**: scores, factors and a graph in nested objects are read as the same values in flat
    fields, and if they are wrong there are as many errors.  The rest of the object can be
    anything in which these flat fields do not stand. -/
theorem ofValue_nestedLayout {score factors quality : Value} {graph nested flat : Entries}
    (hbase : ∀ name ∈ flatNames, base.lookup name = none)
    (hnested : base.Adds (nestedLayout score factors quality graph) nested)
    (hflat : base.Adds (flatLayout score factors quality graph) flat)
    (halves : Bool) (known : Option (List String)) :
    ofValue halves known (.record nested) = ofValue halves known (.record flat) := by
  refine ofValue_congr fun name hname => ?_
  have hrest : nested.lookup name = base.lookup name :=
    lookup_of_adds hnested (not_mem_nestedNames hname)
  rw [lookup_liftNested, lookup_liftNested, hrest, lifted_nestedLayout hnested, hflat]
  by_cases h : name ∈ flatNames
  · obtain ⟨v, hv⟩ : ∃ v, (flatLayout score factors quality graph).lookup name = some v :=
      Option.ne_none_iff_exists'.mp fun hnone => Entries.lookup_eq_none_iff.mp hnone h
    rw [hbase name h, hv, Option.none_or, Option.some_or, Option.some_or]
  · have hnone : (flatLayout score factors quality graph).lookup name = none :=
      Entries.lookup_eq_none_iff.mpr h
    rw [hnone, lookup_lifted_eq_none flat h, Option.none_or, Option.or_none]

/-- An object without scores and a graph. -/
def unscored : Entries :=
  [("summary", .text "s"), ("patterns", .list []), ("recommendations", .list [])]

/-- A score that is no number, a factor that is no text and a file that is no object, nested. -/
def wrongNested : Entries :=
  nestedLayout (.text "high") (.list [.int 1]) (.int 80) [("nodes", .list [.null])]

/-- The same values in flat fields. -/
def wrongFlat : Entries :=
  flatLayout (.text "high") (.list [.int 1]) (.int 80) [("nodes", .list [.null])]

/-- So these values are wrong three times in either layout. -/
theorem ofValue_wrongNested :
    (∀ name ∈ flatNames, unscored.lookup name = none)
    ∧ unscored.Adds wrongNested (wrongNested ++ unscored)
    ∧ unscored.Adds wrongFlat (wrongFlat ++ unscored)
    ∧ ofValue false none (.record (wrongNested ++ unscored))
      = ofValue false none (.record (wrongFlat ++ unscored))
    ∧ (ofValue false none (.record (wrongFlat ++ unscored))).errors = 3 :=
  have hbase : ∀ name ∈ flatNames, unscored.lookup name = none := by decide
  ⟨hbase, Entries.adds_append _ _, Entries.adds_append _ _,
    ofValue_nestedLayout hbase (Entries.adds_append _ _) (Entries.adds_append _ _) false none,
    by decide +kernel⟩

/-! ## Both layouts -/

/-- **NESTED BEHIND FLAT**: a field is read from the object itself, and only if it is not there from
    a nested object. -/
theorem lookup_liftNested_adds (hextra : extra.map (·.1) ⊆ nestedNames)
    (hmore : entries.Adds extra more) (hname : name ∈ names) :
    (liftNested more).lookup name = (entries.lookup name).or ((lifted more).lookup name) := by
  rw [lookup_liftNested, lookup_of_adds hmore fun hmem => not_mem_nestedNames hname (hextra hmem)]

/-- Flat fields in camel case win over nested objects. -/
theorem ofValue_of_camelCase (hflat : ∀ name ∈ flatNames, (entries.lookup name).isSome = true)
    (hextra : extra.map (·.1) ⊆ nestedNames) (hmore : entries.Adds extra more) :
    ofValue halves known (.record more) = ofValue halves known (.record entries) := by
  refine ofValue_congr fun name hname => ?_
  rw [lookup_liftNested_adds hextra hmore hname, lookup_liftNested]
  by_cases h : name ∈ flatNames
  · rw [Option.or_of_isSome (hflat name h), Option.or_of_isSome (hflat name h)]
  · rw [lookup_lifted_eq_none more h, lookup_lifted_eq_none entries h]

/-- Where there are no nested objects yet, adding some is adding the flat fields in camel case that
    they stand for, behind those that are there. -/
theorem ofValue_of_flat (hflat : ∀ name ∈ nestedNames, entries.lookup name = none)
    (hextra : extra.map (·.1) ⊆ nestedNames) (hmore : entries.Adds extra more) :
    ofValue halves known (.record more)
      = ofValue halves known (.record (entries ++ lifted extra)) := by
  have hnested : ∀ name ∈ nestedNames, more.lookup name = extra.lookup name := by
    intro name hname
    rw [hmore, hflat name hname, Option.or_none]
  have hnone : ∀ name ∈ nestedNames, (entries ++ lifted extra).lookup name = none := by
    intro name hname
    rw [List.lookup_append, hflat name hname, Option.none_or]
    exact lookup_lifted_eq_none extra ((by decide : ∀ n ∈ nestedNames, n ∉ flatNames) name hname)
  have hmoreLifted : lifted more = lifted extra :=
    lifted_congr (hnested _ (by decide)) (hnested _ (by decide)) (hnested _ (by decide))
  have hlifted : lifted (entries ++ lifted extra) = lifted [] :=
    lifted_congr (hnone _ (by decide)) (hnone _ (by decide)) (hnone _ (by decide))
  refine ofValue_congr fun name hname => ?_
  rw [lookup_liftNested_adds hextra hmore hname, lookup_liftNested, hmoreLifted, hlifted,
    List.lookup_append]
  exact Option.or_none.symm

/-- Nested objects of which no value can be read. -/
def unreadable : Entries :=
  [("complexity", .record [("factors", .null)]), ("quality", .record []),
    ("graph", .record [("nodes", .null)])]

/-- They stand for flat fields that cannot be read. -/
theorem lifted_unreadable (h : entries.Adds unreadable more) :
    lifted more = [("complexityScore", .null), ("complexityFactors", .null),
      ("qualityScore", .null), ("graphOverlay", .record [("nodes", .null)])] := by
  have hlifted : lifted more = lifted unreadable :=
    lifted_congr ((h _).trans rfl) ((h _).trans rfl) ((h _).trans rfl)
  rw [hlifted]
  rfl

/-- If nested objects of which nothing can be read do no harm, the flat fields are in camel case. -/
theorem camelCase_of_reads (hmore : entries.Adds unreadable more) {a : Assessment}
    (hreads : Reads halves (liftNested more) a) :
    ∀ name ∈ flatNames, (entries.lookup name).isSome = true := by
  have hlookup : ∀ name ∈ flatNames, entries.lookup name = none →
      (liftNested more).lookup name = (lifted more).lookup name := by
    intro name hname hfree
    rw [lookup_liftNested_adds (List.Subset.refl _) hmore (flatNames_subset hname), hfree,
      Option.none_or]
  rw [lifted_unreadable hmore] at hlookup
  intro name hname
  rw [Option.isSome_iff_ne_none]
  intro hfree
  have hv := hlookup name hname hfree
  rw [flatNames] at hname
  simp only [List.mem_cons, List.not_mem_nil, or_false] at hname
  rcases hname with rfl | rfl | rfl | rfl
  · have hfield := hreads.complexityScore
    rw [Field.required_of_lookup (hv.trans rfl)] at hfield
    exact nomatch hfield
  · have hfield := hreads.complexityFactors
    rw [Field.optional_of_lookup (hv.trans rfl)] at hfield
    exact nomatch hfield
  · have hfield := hreads.qualityScore
    rw [Field.required_of_lookup (hv.trans rfl)] at hfield
    exact nomatch hfield
  · have hfield := hreads.overlay
    rw [Field.optional_of_lookup (hv.trans rfl)] at hfield
    exact nomatch hfield

/-- **WHICH LAYOUT WINS**: nested objects can be added to an accepted answer without any effect, be
    they what they may, exactly if the flat fields that they stand for are all there in camel case.
    To an answer without nested objects they add these fields in camel case, so they win over fields
    with low lines. -/
theorem unchanged_iff_camelCase {a : Assessment}
    (h : ofValue halves known (.record entries) = .valid a) :
    ((∀ extra more, extra.map (·.1) ⊆ nestedNames → entries.Adds extra more →
        ofValue halves known (.record more) = .valid a)
      ↔ ∀ name ∈ flatNames, (entries.lookup name).isSome = true)
    ∧ ((∀ name ∈ nestedNames, entries.lookup name = none) →
      ∀ extra more, extra.map (·.1) ⊆ nestedNames → entries.Adds extra more →
        ofValue halves known (.record more)
          = ofValue halves known (.record (entries ++ lifted extra))) := by
  refine ⟨⟨fun hall => ?_, fun hflat extra more hextra hmore => ?_⟩,
    fun hflat extra more => ofValue_of_flat hflat⟩
  · have hmore := Entries.adds_append entries unreadable
    have hvalid := hall unreadable _ (List.Subset.refl _) hmore
    exact camelCase_of_reads hmore (ofValue_eq_valid_iff.mp hvalid).1
  · rw [ofValue_of_camelCase hflat hextra hmore, h]

/-- An object with its scores, a factor and a graph in camel case. -/
def scored : Entries :=
  flatLayout (.int 1) (.list [.text "deep nesting"]) (.int 80) [] ++ unscored

/-- So no nested object changes what this object is read as. -/
theorem unchanged_scored :
    ∃ a, ofValue false none (.record scored) = .valid a
      ∧ ∀ extra more, extra.map (·.1) ⊆ nestedNames → scored.Adds extra more →
        ofValue false none (.record more) = .valid a := by
  have haccepted : (ofValue false none (.record scored)).value?.isSome = true := by decide +kernel
  obtain ⟨a, ha⟩ := Option.isSome_iff_exists.mp haccepted
  have hvalid := Checked.value?_eq_some_iff.mp ha
  exact ⟨a, hvalid, (unchanged_iff_camelCase hvalid).1.mpr (by decide)⟩

/-- The same fields with low lines in their names. -/
def scoredWithLowLines : Entries :=
  [("complexity_score", .int 1), ("complexity_factors", .list [.text "deep nesting"]),
    ("quality_score", .int 80), ("graph_overlay", .record [])] ++ unscored

/-- A nested score. -/
def nestedScore : Entries := [("complexity", .record [("score", .int 9)])]

/-- Not so with low lines: a nested score is read instead of the flat one, and the factors are
    gone. -/
theorem not_unchanged_lowLines :
    ∃ a b, ofValue false none (.record scoredWithLowLines) = .valid a
      ∧ scoredWithLowLines.Adds nestedScore (nestedScore ++ scoredWithLowLines)
      ∧ ofValue false none (.record (nestedScore ++ scoredWithLowLines)) = .valid b
      ∧ a.complexityScore < b.complexityScore
      ∧ a.complexityFactors = ["deep nesting"] ∧ b.complexityFactors = [] := by
  have hboth : ((ofValue false none (.record scoredWithLowLines)).value?.any fun a =>
      (ofValue false none (.record (nestedScore ++ scoredWithLowLines))).value?.any fun b =>
        a.complexityScore < b.complexityScore && a.complexityFactors = ["deep nesting"]
          && b.complexityFactors = []) = true := by decide +kernel
  obtain ⟨a, ha, hb⟩ := (Option.any_eq_true _ _).mp hboth
  obtain ⟨b, hb, hdiffer⟩ := (Option.any_eq_true _ _).mp hb
  simp only [Bool.and_eq_true, decide_eq_true_eq] at hdiffer
  obtain ⟨⟨hscore, hfactors⟩, hnone⟩ := hdiffer
  exact ⟨a, b, Checked.value?_eq_some_iff.mp ha, Entries.adds_append _ _,
    Checked.value?_eq_some_iff.mp hb, hscore, hfactors, hnone⟩

end SourceAtlas.Assessment
