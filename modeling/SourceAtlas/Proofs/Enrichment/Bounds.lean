import SourceAtlas.Proofs.Enrichment.Overlay
import SourceAtlas.Proofs.Path
import SourceAtlas.Proofs.Value.Compare

/-! # The bounds of an accepted answer

    A check that succeeds has succeeded in all its parts: what an applicative
    check yields comes from what each part yields (`Checked.seq_eq_valid`), and
    a list is checked item by item (`Checked.all_eq_valid`).  So for every kind of
    object there is one lemma that says what its fields hold if it is accepted
    (`Remark.fits_of_ofEntries`, `OverlayEdge.fits_of_ofEntries`,
    `Overlay.fits_of_ofEntries`), and an assessment is put together from them, field
    by field (`Assessment.ofEntries_eq_valid_iff`).

    Bounds are not kept by cutting off what lies beyond them: a count is the
    whole number that stands in the answer, and that is at least zero
    (`Field.IsCount`).  The scores are compared as floating-point numbers, and a
    comparison that holds is one of numbers (`Binary64.isNaN_of_le`). -/

namespace SourceAtlas

/-! ## Checks that succeed -/

namespace Checked

variable {α β : Type}

theorem value?_eq_some_iff {c : Checked α} {a : α} : c.value? = some a ↔ c = .valid a := by
  cases c with
  | valid b => simp [value?]
  | wrong n => simp [value?]

theorem map_eq_valid {f : α → β} {c : Checked α} {b : β} :
    c.map f = .valid b ↔ ∃ a, c = .valid a ∧ f a = b := by
  cases c with
  | valid a => simp [map]
  | wrong n => simp [map]

/-- A combined check succeeds only if both parts do. -/
theorem seq_eq_valid {cf : Checked (α → β)} {c : Checked α} {b : β} :
    cf <*> c = .valid b ↔ ∃ f a, cf = .valid f ∧ c = .valid a ∧ f a = b := by
  show cf.ap c = .valid b ↔ _
  cases cf with
  | valid f => simp [ap, map_eq_valid]
  | wrong n => cases c <;> simp [ap]

/-- A function is applied to what a check yields. -/
theorem fmap_eq_valid {f : α → β} {c : Checked α} {b : β} :
    f <$> c = .valid b ↔ ∃ a, c = .valid a ∧ f a = b :=
  map_eq_valid

theorem when_eq_valid {c : Checked α} {test : α → Bool} {a : α} :
    c.when test = .valid a ↔ c = .valid a ∧ test a = true := by
  cases c with
  | wrong n => exact ⟨nofun, nofun⟩
  | valid b =>
      rw [when]
      by_cases hb : test b = true
      · rw [if_pos hb]
        exact (and_iff_left_of_imp fun h => Checked.valid.inj h ▸ hb).symm
      · rw [if_neg hb]
        exact ⟨nofun, fun h => absurd (Checked.valid.inj h.1 ▸ h.2) hb⟩

theorem ofOption_eq_valid {o : Option α} {a : α} : ofOption o = .valid a ↔ o = some a := by
  cases o with
  | none => exact ⟨nofun, nofun⟩
  | some b => simp [ofOption]

/-- A list passes a check item by item. -/
theorem all_eq_valid {check : α → Checked β} {items : List α} {bs : List β} :
    all check items = .valid bs ↔ List.Forall₂ (fun a b => check a = .valid b) items bs := by
  induction items generalizing bs with
  | nil => simp [all, eq_comm]
  | cons a rest ih =>
      show (List.cons <$> check a) <*> all check rest = .valid bs ↔ _
      rw [seq_eq_valid, List.forall₂_cons_left_iff]
      constructor
      · rintro ⟨f, bs, hf, hbs, rfl⟩
        obtain ⟨b, hb, rfl⟩ := fmap_eq_valid.mp hf
        exact ⟨b, bs, hb, ih.mp hbs, rfl⟩
      · rintro ⟨b, bs, hb, hbs, rfl⟩
        exact ⟨_, bs, fmap_eq_valid.mpr ⟨b, hb, rfl⟩, ih.mpr hbs, rfl⟩

end Checked

/-! ## What a field holds -/

namespace Field

variable {α : Type}

/-- A field holds a value that is read in some way, or it is missing and there is a default. -/
def Holds (entries : Entries) (names : List String) (default : Option α)
    (reads : Value → α → Prop) (a : α) : Prop :=
  (∃ v, find? entries names = some v ∧ reads v a) ∨ (find? entries names = none ∧ default = some a)

/-- A value is a whole number of at least zero, and that is the count. -/
def IsCount (v : Value) (n : Nat) : Prop :=
  ∃ i, whole v = .valid i ∧ 0 ≤ i ∧ (n : Int) = i

/-- A value is this number. -/
def IsNumber (v : Value) (x : Float) : Prop :=
  number v = .valid x

/-- A value is the word for a severity. -/
def IsSeverity (v : Value) (s : Severity) : Prop :=
  textOf? false v = some s.word

/-- A value is a list of objects that are read in some way. -/
def IsListOf (reads : Entries → α → Prop) (v : Value) (as : List α) : Prop :=
  ∃ items, (v = .list items ∨ v = .tuple items)
    ∧ List.Forall₂ (fun item a => ∃ entries, item = .record entries ∧ reads entries a) items as

/-- A value is an object that is read in some way, or nothing. -/
def IsObjectOrNull (reads : Entries → α → Prop) (v : Value) (o : Option α) : Prop :=
  (v = .null ∧ o = none) ∨ ∃ entries a, v = .record entries ∧ o = some a ∧ reads entries a

variable {entries : Entries} {names : List String} {reads : Value → α → Prop}
  {check : Value → Checked α} {a : α}

theorem holds_of_required (h : required entries names check = .valid a)
    (hreads : ∀ v, check v = .valid a → reads v a) : Holds entries names none reads a := by
  unfold required at h
  split at h
  · rename_i v hfind
    exact Or.inl ⟨v, hfind, hreads v h⟩
  · exact nomatch h

theorem holds_of_optional {default : α} (h : optional entries names default check = .valid a)
    (hreads : ∀ v, check v = .valid a → reads v a) :
    Holds entries names (some default) reads a := by
  unfold optional at h
  split at h
  · rename_i v hfind
    exact Or.inl ⟨v, hfind, hreads v h⟩
  · rename_i hfind
    exact Or.inr ⟨hfind, congrArg some (Checked.valid.inj h)⟩

theorem Holds.imp {default : Option α} {reads' : Value → α → Prop}
    (h : Holds entries names default reads a) (himp : ∀ v a, reads v a → reads' v a) :
    Holds entries names default reads' a :=
  Or.imp_left (fun ⟨v, hfind, hv⟩ => ⟨v, hfind, himp v a hv⟩) h

/-- Without a default, a field holds a value. -/
theorem Holds.exists_value (h : Holds entries names none reads a) : ∃ v, reads v a := by
  rcases h with ⟨v, -, hv⟩ | ⟨-, hdefault⟩
  · exact ⟨v, hv⟩
  · exact nomatch hdefault

/-- An object that may be missing is read if it is there. -/
theorem Holds.exists_object {reads : Entries → α → Prop}
    (h : Holds entries names (some none) (IsObjectOrNull reads) (some a)) : ∃ es, reads es a := by
  rcases h with ⟨v, -, ⟨-, hnone⟩ | ⟨es, b, -, hb, hreads⟩⟩ | ⟨-, hdefault⟩
  · exact nomatch hnone
  · exact ⟨es, Option.some.inj hb ▸ hreads⟩
  · exact nomatch hdefault

/-- All objects of a list are read. -/
theorem IsListOf.exists_entries {reads : Entries → α → Prop} {v : Value} {as : List α}
    (h : IsListOf reads v as) (ha : a ∈ as) : ∃ es, reads es a := by
  obtain ⟨items, -, hitems⟩ := h
  induction hitems with
  | nil => exact absurd ha List.not_mem_nil
  | cons hfirst _ ih =>
      rcases List.mem_cons.mp ha with rfl | ha
      · obtain ⟨es, -, hes⟩ := hfirst
        exact ⟨es, hes⟩
      · exact ih ha

/-- In a list that may be missing there is nothing else. -/
theorem Holds.exists_entries {reads : Entries → α → Prop} {as : List α}
    (h : Holds entries names (some []) (IsListOf reads) as) (ha : a ∈ as) :
    ∃ es, reads es a := by
  rcases h with ⟨v, -, hlist⟩ | ⟨-, hdefault⟩
  · exact hlist.exists_entries ha
  · rw [← Option.some.inj hdefault] at ha
    exact absurd ha List.not_mem_nil

/-! ### Values -/

theorem isCount_of_natural {v : Value} {n : Nat} (h : natural v = .valid n) : IsCount v n := by
  obtain ⟨i, hi, rfl⟩ := Checked.map_eq_valid.mp h
  obtain ⟨hwhole, hle⟩ := Checked.when_eq_valid.mp hi
  have hle : 0 ≤ i := of_decide_eq_true hle
  exact ⟨i, hwhole, hle, Int.toNat_of_nonneg hle⟩

theorem ne_empty_of_someText {v : Value} {s : String} (h : someText v = .valid s) : s ≠ "" := by
  obtain ⟨-, hs⟩ := Checked.when_eq_valid.mp h
  rw [Bool.not_eq_true'] at hs
  rintro rfl
  exact nomatch hs

theorem isNumber_of_score {v : Value} {x : Float} (h : score v = .valid x) :
    IsNumber v x ∧ 0.0 ≤ x := by
  obtain ⟨hnumber, hx⟩ := Checked.when_eq_valid.mp h
  exact ⟨hnumber, of_decide_eq_true hx⟩

theorem isNumber_of_percentage {v : Value} {x : Float} (h : percentage v = .valid x) :
    IsNumber v x ∧ 0.0 ≤ x ∧ x ≤ 100.0 := by
  obtain ⟨hnumber, hx⟩ := Checked.when_eq_valid.mp h
  obtain ⟨hlow, hhigh⟩ := Bool.and_eq_true_iff.mp hx
  exact ⟨hnumber, of_decide_eq_true hlow, of_decide_eq_true hhigh⟩

theorem object_eq_valid {check : Entries → Checked α} {v : Value} {a : α} :
    object check v = .valid a ↔ ∃ entries, v = .record entries ∧ check entries = .valid a := by
  cases v with
  | record entries => simp [object]
  | _ => exact ⟨nofun, nofun⟩

theorem isListOf_of_list {check : Entries → Checked α} {reads : Entries → α → Prop}
    (hreads : ∀ entries a, check entries = .valid a → reads entries a) {v : Value} {as : List α}
    (h : list (object check) v = .valid as) : IsListOf reads v as := by
  have hitems : ∀ items, Checked.all (object check) items = .valid as →
      List.Forall₂ (fun item a => ∃ entries, item = .record entries ∧ reads entries a)
        items as := by
    intro items hall
    refine (Checked.all_eq_valid.mp hall).imp fun item a hitem => ?_
    obtain ⟨entries, hentries, hcheck⟩ := object_eq_valid.mp hitem
    exact ⟨entries, hentries, hreads entries a hcheck⟩
  unfold list at h
  split at h
  · exact ⟨_, Or.inl rfl, hitems _ h⟩
  · exact ⟨_, Or.inr rfl, hitems _ h⟩
  · exact nomatch h

theorem isObjectOrNull_of_objectOrNull {check : Entries → Checked α} {reads : Entries → α → Prop}
    (hreads : ∀ entries a, check entries = .valid a → reads entries a) {v : Value} {o : Option α}
    (h : objectOrNull check v = .valid o) : IsObjectOrNull reads v o := by
  unfold objectOrNull at h
  split at h
  · exact Or.inl ⟨rfl, (Checked.valid.inj h).symm⟩
  · obtain ⟨a, ha, rfl⟩ := Checked.map_eq_valid.mp h
    obtain ⟨entries, hentries, hcheck⟩ := object_eq_valid.mp ha
    exact Or.inr ⟨entries, a, hentries, rfl, hreads entries a hcheck⟩

end Field

/-! ## Comparisons -/

/-- What is compared and found to be at most something else is a number, and so is that. -/
theorem Binary64.isNaN_of_le {x y : Float} (h : x ≤ y) : x.isNaN = false ∧ y.isNaN = false := by
  have hle : (x ≤ y) = (decide (x.toModel ≤ y.toModel) = true) := rfl
  rw [hle, decide_eq_true_iff] at h
  have hcompare : (x.toModel.unpack.compare y.toModel.unpack).any (·.isLE) = true := h
  show x.toModel.unpack.isNaN = false ∧ y.toModel.unpack.isNaN = false
  cases hx : x.toModel.unpack with
  | notANumber =>
      rw [hx] at hcompare
      exact nomatch hcompare
  | _ =>
      refine ⟨rfl, ?_⟩
      cases hy : y.toModel.unpack with
      | notANumber =>
          rw [hx, hy] at hcompare
          exact nomatch hcompare
      | _ => rfl

/-! ## Objects of an answer -/

/-- A finding fits the schema: its line is a count, and its severity is one that there is. -/
structure Remark.Fits (entries : Entries) (r : Remark) : Prop where
  line : Field.Holds entries ["line"] (some 1) Field.IsCount r.line
  severity : Field.Holds entries ["severity"] (some .info) Field.IsSeverity r.severity

/-- A file of the graph fits the schema: its path is canonical. -/
def OverlayNode.Fits (_ : Entries) (n : OverlayNode) : Prop :=
  Path.normalize n.id = n.id

/-- A dependency fits the schema: its weight is a count, and the paths of its ends are
    canonical. -/
structure OverlayEdge.Fits (entries : Entries) (e : OverlayEdge) : Prop where
  weight : Field.Holds entries ["weight", "strength"] (some 1) Field.IsCount e.weight
  source : Path.normalize e.source = e.source
  target : Path.normalize e.target = e.target

/-- A graph fits the schema if its files and its dependencies do. -/
structure Overlay.Fits (entries : Entries) (o : Overlay) : Prop where
  nodes : Field.Holds entries ["nodes"] (some []) (Field.IsListOf OverlayNode.Fits) o.nodes
  edges : Field.Holds entries ["edges"] (some []) (Field.IsListOf OverlayEdge.Fits) o.edges

/-- An assessment fits the schema, and its graph speaks of known paths only. -/
structure Assessment.Fits (known : List String) (entries : Entries) (a : Assessment) : Prop where
  summary : a.summary ≠ ""
  /-- The scores are those in the answer. -/
  complexity : Field.Holds entries ["complexityScore", "complexity_score"] none Field.IsNumber
    a.complexityScore
  quality : Field.Holds entries ["qualityScore", "quality_score"] none Field.IsNumber
    a.qualityScore
  /-- They are within their bounds, and so they are numbers. -/
  complexity_bounds : 0.0 ≤ a.complexityScore ∧ a.complexityScore.isNaN = false
  quality_bounds : 0.0 ≤ a.qualityScore ∧ a.qualityScore ≤ 100.0 ∧ a.qualityScore.isNaN = false
  patterns : Field.Holds entries ["patterns"] none (Field.IsListOf Remark.Fits) a.patterns
  overlay : Field.Holds entries ["graphOverlay", "graph_overlay"] (some none)
    (Field.IsObjectOrNull Overlay.Fits) a.overlay
  /-- The paths are known, and they are canonical. -/
  paths : ∀ o, a.overlay = some o → ∀ p ∈ o.mentions, p ∈ known ∧ Path.normalize p = p

variable {halves : Bool}

theorem normalize_of_answeredPath {v : Value} {p : String}
    (h : answeredPath halves v = .valid p) : Path.normalize p = p := by
  obtain ⟨s, -, rfl⟩ := Checked.map_eq_valid.mp h
  have hspelled : String.ofList (Path.normalizeChars (Text.strip s.toList))
      = Path.normalize (.ofList (Text.strip s.toList)) := by
    rw [Path.normalize, String.toList_ofList]
  rw [hspelled, Path.normalize_normalize]

theorem Severity.isSeverity_of_ofValue {v : Value} {s : Severity}
    (h : Severity.ofValue v = .valid s) : Field.IsSeverity v s := by
  obtain ⟨word, hword, hs⟩ := Option.bind_eq_some_iff.mp (Checked.ofOption_eq_valid.mp h)
  rw [ofWord?] at hs
  have hsame := List.find?_some hs
  rw [Field.IsSeverity, hword, of_decide_eq_true hsame]

theorem Remark.fits_of_ofEntries {entries : Entries} {r : Remark}
    (h : Remark.ofEntries halves entries = .valid r) : r.Fits entries := by
  simp only [Remark.ofEntries, Checked.seq_eq_valid, Checked.fmap_eq_valid] at h
  obtain ⟨_, severity, ⟨_, description, ⟨_, line, ⟨_, name, ⟨kind, -, rfl⟩, -, rfl⟩, hline, rfl⟩,
    -, rfl⟩, hseverity, rfl⟩ := h
  exact ⟨Field.holds_of_optional hline fun _ => Field.isCount_of_natural,
    Field.holds_of_optional hseverity fun _ => Severity.isSeverity_of_ofValue⟩

theorem OverlayNode.fits_of_ofEntries {entries : Entries} {n : OverlayNode}
    (h : OverlayNode.ofEntries halves entries = .valid n) : n.Fits entries := by
  simp only [OverlayNode.ofEntries, Checked.seq_eq_valid, Checked.fmap_eq_valid] at h
  obtain ⟨_, kind, ⟨_, label, ⟨id, hid, rfl⟩, -, rfl⟩, -, rfl⟩ := h
  obtain ⟨v, hv⟩ := (Field.holds_of_required hid fun _ => normalize_of_answeredPath).exists_value
  exact hv

theorem OverlayEdge.fits_of_ofEntries {entries : Entries} {e : OverlayEdge}
    (h : OverlayEdge.ofEntries halves entries = .valid e) : e.Fits entries := by
  simp only [OverlayEdge.ofEntries, Checked.seq_eq_valid, Checked.fmap_eq_valid] at h
  obtain ⟨_, weight, ⟨_, kind, ⟨_, target, ⟨source, hsource, rfl⟩, htarget, rfl⟩, -, rfl⟩,
    hweight, rfl⟩ := h
  obtain ⟨_, hs⟩ :=
    (Field.holds_of_required hsource fun _ => normalize_of_answeredPath).exists_value
  obtain ⟨_, ht⟩ :=
    (Field.holds_of_required htarget fun _ => normalize_of_answeredPath).exists_value
  exact ⟨Field.holds_of_optional hweight fun _ => Field.isCount_of_natural, hs, ht⟩

theorem Overlay.fits_of_ofEntries {entries : Entries} {o : Overlay}
    (h : Overlay.ofEntries halves entries = .valid o) : o.Fits entries := by
  simp only [Overlay.ofEntries, Checked.seq_eq_valid, Checked.fmap_eq_valid] at h
  obtain ⟨_, edges, ⟨nodes, hnodes, rfl⟩, hedges, rfl⟩ := h
  exact ⟨Field.holds_of_optional hnodes fun _ =>
      Field.isListOf_of_list fun _ _ => OverlayNode.fits_of_ofEntries,
    Field.holds_of_optional hedges fun _ =>
      Field.isListOf_of_list fun _ _ => OverlayEdge.fits_of_ofEntries⟩

/-- A graph that fits the schema speaks of canonical paths only. -/
theorem Overlay.Fits.normalize_mentions {entries : Entries} {o : Overlay} (h : o.Fits entries) :
    ∀ p ∈ o.mentions, Path.normalize p = p := by
  refine forall_mentions_iff.mpr ⟨fun n hn => ?_, fun e he => ?_⟩
  · obtain ⟨_, hfits⟩ := h.nodes.exists_entries hn
    exact hfits
  · obtain ⟨_, hfits⟩ := h.edges.exists_entries he
    exact ⟨hfits.source, hfits.target⟩

/-! ## Answers -/

namespace Assessment

variable {entries : Entries} {a : Assessment}

/-- All fields of an assessment but its graph are read from an object. -/
structure ReadsRest (halves : Bool) (entries : Entries) (a : Assessment) : Prop where
  summary : Field.required entries ["summary"] Field.someText = .valid a.summary
  patterns : Field.required entries ["patterns"]
    (Field.list (Field.object (Remark.ofEntries halves))) = .valid a.patterns
  recommendations : Field.required entries ["recommendations"] (Field.texts halves)
    = .valid a.recommendations
  complexityScore : Field.required entries ["complexityScore", "complexity_score"] Field.score
    = .valid a.complexityScore
  qualityScore : Field.required entries ["qualityScore", "quality_score"] Field.percentage
    = .valid a.qualityScore
  complexityFactors : Field.optional entries ["complexityFactors", "complexity_factors"] []
    (Field.texts halves) = .valid a.complexityFactors
  architecture : Field.optional entries ["architecture"] none
    (Field.objectOrNull (Architecture.ofEntries halves)) = .valid a.architecture

/-- All fields of an assessment are read from an object. -/
structure Reads (halves : Bool) (entries : Entries) (a : Assessment) : Prop
    extends ReadsRest halves entries a where
  overlay : Field.optional entries ["graphOverlay", "graph_overlay"] none
    (Field.objectOrNull (Overlay.ofEntries halves)) = .valid a.overlay

/-- **FIELD BY FIELD**: an object is accepted if and only if each field is. -/
theorem ofEntries_eq_valid_iff : ofEntries halves entries = .valid a ↔ Reads halves entries a := by
  simp only [ofEntries, Checked.seq_eq_valid, Checked.fmap_eq_valid]
  constructor
  · rintro ⟨_, overlay, ⟨_, architecture, ⟨_, factors, ⟨_, quality, ⟨_, complexity,
      ⟨_, recommendations, ⟨_, patterns, ⟨summary, hsummary, rfl⟩, hpatterns, rfl⟩,
      hrecommendations, rfl⟩, hcomplexity, rfl⟩, hquality, rfl⟩, hfactors, rfl⟩, harchitecture,
      rfl⟩, hoverlay, rfl⟩
    exact ⟨⟨hsummary, hpatterns, hrecommendations, hcomplexity, hquality, hfactors,
      harchitecture⟩, hoverlay⟩
  · rintro ⟨⟨hsummary, hpatterns, hrecommendations, hcomplexity, hquality, hfactors,
      harchitecture⟩, hoverlay⟩
    exact ⟨_, _, ⟨_, _, ⟨_, _, ⟨_, _, ⟨_, _, ⟨_, _, ⟨_, _, ⟨_, hsummary, rfl⟩, hpatterns, rfl⟩,
      hrecommendations, rfl⟩, hcomplexity, rfl⟩, hquality, rfl⟩, hfactors, rfl⟩, harchitecture,
      rfl⟩, hoverlay, rfl⟩

end Assessment

theorem Assessment.fits_of_ofEntries {known : List String} {entries : Entries} {a : Assessment}
    (h : Assessment.ofEntries halves entries = .valid a) (hwithin : a.isWithin known = true) :
    a.Fits known entries := by
  have hreads := Assessment.ofEntries_eq_valid_iff.mp h
  have hsome : Field.Holds entries ["summary"] none (fun _ s => s ≠ "") a.summary :=
    Field.holds_of_required hreads.summary fun _ => Field.ne_empty_of_someText
  have hlow : Field.Holds entries ["complexityScore", "complexity_score"] none
      (fun v x => Field.IsNumber v x ∧ 0.0 ≤ x) a.complexityScore :=
    Field.holds_of_required hreads.complexityScore fun _ => Field.isNumber_of_score
  have hboth : Field.Holds entries ["qualityScore", "quality_score"] none
      (fun v x => Field.IsNumber v x ∧ 0.0 ≤ x ∧ x ≤ 100.0) a.qualityScore :=
    Field.holds_of_required hreads.qualityScore fun _ => Field.isNumber_of_percentage
  obtain ⟨_, hne⟩ := hsome.exists_value
  obtain ⟨_, -, hcomplexityLow⟩ := hlow.exists_value
  obtain ⟨_, -, hqualityLow, hqualityHigh⟩ := hboth.exists_value
  have hgraph := Field.holds_of_optional hreads.overlay fun _ =>
    Field.isObjectOrNull_of_objectOrNull fun _ _ => Overlay.fits_of_ofEntries
  exact {
    summary := hne
    complexity := hlow.imp fun _ _ => And.left
    quality := hboth.imp fun _ _ => And.left
    complexity_bounds := ⟨hcomplexityLow, (Binary64.isNaN_of_le hcomplexityLow).2⟩
    quality_bounds := ⟨hqualityLow, hqualityHigh, (Binary64.isNaN_of_le hqualityLow).2⟩
    patterns := Field.holds_of_required hreads.patterns fun _ =>
      Field.isListOf_of_list fun _ _ => Remark.fits_of_ofEntries
    overlay := hgraph
    paths := by
      intro o ho p hp
      rw [ho] at hgraph
      rw [Assessment.isWithin, ho] at hwithin
      obtain ⟨_, hfits⟩ := hgraph.exists_object
      exact ⟨Overlay.isWithin_iff.mp hwithin p hp, hfits.normalize_mentions p hp⟩ }

theorem Assessment.fits_of_ofValue {known : List String} {v : Value} {a : Assessment}
    (h : Assessment.ofValue halves (some known) v = .valid a) :
    ∃ entries, v = .record entries ∧ a.Fits known (Assessment.liftNested entries) := by
  obtain ⟨hobject, hwithin⟩ := Checked.when_eq_valid.mp h
  obtain ⟨entries, hentries, hcheck⟩ := Field.object_eq_valid.mp hobject
  exact ⟨entries, hentries, Assessment.fits_of_ofEntries hcheck hwithin⟩

variable {r : AnswerReader}

theorem assessmentOf_eq_ok {known : List String} {v : Value} {a : Assessment}
    (h : assessmentOf r known v = .ok a) :
    Assessment.ofValue r.halves (some known) v = .valid a := by
  unfold assessmentOf at h
  split at h
  · split at h
    · rename_i hvalid
      rw [hvalid, Except.ok.inj h]
    · exact nomatch h
  · exact nomatch h

theorem readAnswer_eq_ok {known : List String} {answer : String} {a : Assessment}
    (h : readAnswer r known answer = .ok a) :
    ∃ text v, payload? answer = some text ∧ Json.read r.json text = .ok v
      ∧ assessmentOf r known v = .ok a := by
  unfold readAnswer payload at h
  cases hpayload : payload? answer with
  | none =>
      rw [hpayload] at h
      exact nomatch h
  | some text =>
      rw [hpayload] at h
      dsimp only at h
      split at h
      · exact nomatch h
      · rename_i v hread
        exact ⟨text, v, rfl, hread, h⟩

/-- **BOUNDS**: an assessment that is read from an answer fits the schema, and it holds what stands
    in the object of the answer once nested fields have been put in their places. -/
theorem fits_of_readAnswer {known : List String} {answer : String} {a : Assessment}
    (h : readAnswer r known answer = .ok a) :
    ∃ text entries, payload? answer = some text
      ∧ Json.read r.json text = .ok (.record entries)
      ∧ a.Fits known (Assessment.liftNested entries) := by
  obtain ⟨text, v, hpayload, hread, hv⟩ := readAnswer_eq_ok h
  obtain ⟨entries, rfl, hfits⟩ := Assessment.fits_of_ofValue (assessmentOf_eq_ok hv)
  exact ⟨text, entries, hpayload, hread, hfits⟩

/-- An answer in the nested layout, with numbers as texts and a truth value for a score. -/
def nestedAnswer : String :=
  "\x7b\"summary\":\"s\",\"patterns\":[\x7b\"type\":\"t\",\"name\":\"n\",\"line\":\" 7 \",\"description\":\"d\",\"severity\":\"warning\"\x7d],\"recommendations\":[],\"complexity\":\x7b\"score\":\"2.5\"\x7d,\"quality\":\x7b\"score\":true\x7d,\"graph\":\x7b\"nodes\":[\x7b\"id\":\" ./a.py\"\x7d],\"edges\":[\x7b\"source\":\"a.py\",\"target\":\"b\\\\c.py\",\"strength\":3\x7d]\x7d\x7d"

/-- The object in this answer. -/
def nestedObject : Value :=
  .record [("summary", .text "s"),
    ("patterns", .list [.record [("type", .text "t"), ("name", .text "n"), ("line", .text " 7 "),
      ("description", .text "d"), ("severity", .text "warning")]]),
    ("recommendations", .list []), ("complexity", .record [("score", .text "2.5")]),
    ("quality", .record [("score", .bool true)]),
    ("graph", .record [("nodes", .list [.record [("id", .text " ./a.py")]]),
      ("edges", .list [.record [("source", .text "a.py"), ("target", .text "b\\c.py"),
        ("strength", .int 3)]])])]

set_option maxRecDepth 8000 in
theorem readAnswer_nestedAnswer (known : List String) :
    readAnswer {} known nestedAnswer = assessmentOf {} known nestedObject := by
  have hchars : nestedAnswer.toList = _ := String.toList_ofList
  have hpayload : payload? nestedAnswer = some nestedAnswer := by
    rw [payload?, hchars]
    exact congrArg (Option.map String.ofList) (by decide +kernel : _ = some _)
  refine readAnswer_of_read hpayload ?_
  rw [Json.read, hchars]
  rfl

/-- So with these two paths known the answer is accepted, and its assessment fits the schema. -/
theorem fits_nestedAnswer :
    ∃ a, readAnswer {} ["a.py", "b/c.py"] nestedAnswer = .ok a
      ∧ ∃ text entries, payload? nestedAnswer = some text
        ∧ Json.read Json.usualLimits text = .ok (.record entries)
        ∧ a.Fits ["a.py", "b/c.py"] (Assessment.liftNested entries) := by
  have hok : (readAnswer {} ["a.py", "b/c.py"] nestedAnswer).toOption.isSome = true := by
    rw [readAnswer_nestedAnswer]
    decide +kernel
  cases hread : readAnswer {} ["a.py", "b/c.py"] nestedAnswer with
  | error e =>
      rw [hread] at hok
      exact nomatch hok
  | ok a => exact ⟨a, rfl, fits_of_readAnswer hread⟩

end SourceAtlas
