import SourceAtlas.Proofs.Enrichment.Bounds
import SourceAtlas.Proofs.Value.Entries

/-! # An assessment by its names

    An assessment is accepted if each of its fields is, and what a field holds is
    a matter of the names under which it is looked up (`ofEntries_congr`).  Lifting
    a nested layout gives four of these names a value if they have none
    (`lookup_liftNested`), so whatever else an object holds, it is read by its
    look-ups and those of its nested objects (`ofValue_congr`). -/

namespace SourceAtlas

namespace Field

variable {α : Type} {entries others : Entries} {names : List String} {default : α}
  {check : Value → Checked α}

/-- Of several names the first one that is there counts. -/
theorem find?_cons (entries : Entries) (name : String) (names : List String) :
    find? entries (name :: names) = (entries.lookup name).or (find? entries names) := by
  rw [find?, List.findSome?_cons]
  cases entries.lookup name <;> rfl

theorem find?_congr (h : ∀ name ∈ names, others.lookup name = entries.lookup name) :
    find? others names = find? entries names := by
  induction names with
  | nil => rfl
  | cons name rest ih =>
      rw [find?_cons, find?_cons, h name (List.mem_cons_self ..),
        ih fun name hname => h name (List.mem_cons_of_mem _ hname)]

theorem required_congr (h : find? others names = find? entries names) :
    required others names check = required entries names check := by
  rw [required, h, required]

theorem optional_congr (h : find? others names = find? entries names) :
    optional others names default check = optional entries names default check := by
  rw [optional, h, optional]

/-- A field whose first name is there is read from the value under this name. -/
theorem required_of_lookup {name : String} {v : Value} (h : entries.lookup name = some v) :
    required entries (name :: names) check = check v := by
  rw [required, find?_cons, h, Option.some_or]

theorem optional_of_lookup {name : String} {v : Value} (h : entries.lookup name = some v) :
    optional entries (name :: names) default check = check v := by
  rw [optional, find?_cons, h, Option.some_or]

end Field

namespace Assessment

variable {halves : Bool} {known : Option (List String)} {entries others : Entries} {a : Assessment}

/-! ## Fields by their names -/

/-- The names under which the fields of an assessment are looked up. -/
def names : List String :=
  ["summary", "patterns", "recommendations", "complexityScore", "complexity_score",
    "qualityScore", "quality_score", "complexityFactors", "complexity_factors", "architecture",
    "graphOverlay", "graph_overlay"]

/-- Whatever stands under other names is not read. -/
theorem ofEntries_congr (h : ∀ name ∈ names, others.lookup name = entries.lookup name) :
    ofEntries halves others = ofEntries halves entries := by
  have hfind : ∀ ns : List String, ns ⊆ names → Field.find? others ns = Field.find? entries ns :=
    fun ns hns => Field.find?_congr fun name hname => h name (hns hname)
  unfold ofEntries
  rw [Field.required_congr (hfind ["summary"] (by decide)),
    Field.required_congr (hfind ["patterns"] (by decide)),
    Field.required_congr (hfind ["recommendations"] (by decide)),
    Field.required_congr (hfind ["complexityScore", "complexity_score"] (by decide)),
    Field.required_congr (hfind ["qualityScore", "quality_score"] (by decide)),
    Field.optional_congr (hfind ["complexityFactors", "complexity_factors"] (by decide)),
    Field.optional_congr (hfind ["architecture"] (by decide)),
    Field.optional_congr (hfind ["graphOverlay", "graph_overlay"] (by decide))]

/-! ## Nested objects -/

/-- The object under a name, as far as there is one. -/
def nested? (entries : Entries) (key : String) : Option Entries :=
  match entries.lookup key with
  | some (.record inner) => some inner
  | _ => none

/-- The flat fields that a nested `complexity` stands for. -/
def ofComplexity (inner : Entries) : Entries :=
  [("complexityScore", (inner.lookup "score").getD .null),
    ("complexityFactors", (inner.lookup "factors").getD (.list []))]

/-- The flat field that a nested `quality` stands for. -/
def ofQuality (inner : Entries) : Entries :=
  [("qualityScore", (inner.lookup "score").getD .null)]

/-- The flat field that a nested `graph` stands for. -/
def ofGraph (inner : Entries) : Entries :=
  [("graphOverlay", .record inner)]

/-- The flat fields that the nested objects stand for. -/
def lifted (entries : Entries) : Entries :=
  (nested? entries "complexity").elim [] ofComplexity
    ++ (nested? entries "quality").elim [] ofQuality
    ++ (nested? entries "graph").elim [] ofGraph

theorem liftComplexity_eq (entries : Entries) :
    liftComplexity entries
      = entries.complete ((nested? entries "complexity").elim [] ofComplexity) := by
  unfold liftComplexity nested?
  rcases entries.lookup "complexity" with _ | v
  · rfl
  · cases v <;> rfl

theorem liftQuality_eq (entries : Entries) :
    liftQuality entries = entries.complete ((nested? entries "quality").elim [] ofQuality) := by
  unfold liftQuality nested?
  rcases entries.lookup "quality" with _ | v
  · rfl
  · cases v <;> rfl

theorem liftGraph_eq (entries : Entries) :
    liftGraph entries = entries.complete ((nested? entries "graph").elim [] ofGraph) := by
  unfold liftGraph nested?
  rcases entries.lookup "graph" with _ | v
  · rfl
  · cases v <;> rfl

/-- A name that is looked up as before means the same object. -/
theorem nested?_congr {key : String} (h : others.lookup key = entries.lookup key) :
    nested? others key = nested? entries key := by
  rw [nested?, h, nested?]

/-- The nested objects alone determine the flat fields that they stand for. -/
theorem lifted_congr
    (hcomplexity : others.lookup "complexity" = entries.lookup "complexity")
    (hquality : others.lookup "quality" = entries.lookup "quality")
    (hgraph : others.lookup "graph" = entries.lookup "graph") : lifted others = lifted entries := by
  rw [lifted, nested?_congr hcomplexity, nested?_congr hquality, nested?_congr hgraph, lifted]

/-- Fields that are filled in do not hide nested objects. -/
theorem nested?_complete {defaults : Entries} {key : String} (h : defaults.lookup key = none) :
    nested? (entries.complete defaults) key = nested? entries key := by
  refine nested?_congr ?_
  rw [Entries.lookup_complete, h, Option.or_none]

/-- **LIFTING**: a field keeps its value, and only a field without one is given that of a nested
    object. -/
theorem lookup_liftNested (entries : Entries) (name : String) :
    (liftNested entries).lookup name
      = (entries.lookup name).or ((lifted entries).lookup name) := by
  have hcomplexity : ∀ key ∈ ["quality", "graph"],
      ((nested? entries "complexity").elim [] ofComplexity).lookup key = none := by
    cases nested? entries "complexity" with
    | none => exact fun _ _ => rfl
    | some inner => exact List.forall_mem_cons.mpr ⟨rfl, List.forall_mem_singleton.mpr rfl⟩
  have hquality : ((nested? entries "quality").elim [] ofQuality).lookup "graph" = none := by
    cases nested? entries "quality" <;> rfl
  -- No nested object is moved, so each step finds those of the object itself.
  have hfields : liftNested entries = ((entries.complete
      ((nested? entries "complexity").elim [] ofComplexity)).complete
      ((nested? entries "quality").elim [] ofQuality)).complete
      ((nested? entries "graph").elim [] ofGraph) := by
    rw [liftNested, liftGraph_eq, liftQuality_eq, liftComplexity_eq,
      nested?_complete (hcomplexity _ (by decide)), nested?_complete hquality,
      nested?_complete (hcomplexity _ (by decide))]
  rw [hfields, Entries.lookup_complete, Entries.lookup_complete, Entries.lookup_complete, lifted,
    List.lookup_append, List.lookup_append, Option.or_assoc, Option.or_assoc, Option.or_assoc]

/-! ## Objects -/

/-- What an object is read as depends on the look-ups of its fields once nested ones have been put
    in their places. -/
theorem ofValue_congr
    (h : ∀ name ∈ names, (liftNested others).lookup name = (liftNested entries).lookup name) :
    ofValue halves known (.record others) = ofValue halves known (.record entries) := by
  rw [ofValue, Field.object, ofEntries_congr h, ofValue, Field.object]

/-- An object is accepted if and only if each field is, with nested fields in their places, and the
    graph speaks of known paths only. -/
theorem ofValue_eq_valid_iff :
    ofValue halves known (.record entries) = .valid a
      ↔ Reads halves (liftNested entries) a ∧ known.all (a.isWithin ·) = true := by
  rw [ofValue, Checked.when_eq_valid, Field.object, ofEntries_eq_valid_iff]

end Assessment

end SourceAtlas
