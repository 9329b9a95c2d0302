import SourceAtlas.Proofs.Enrichment.Reading
import SourceAtlas.Proofs.Text.Strip

/-! # Paths that are copied into an answer

    The provider is told to name files by their identifiers.  A path in its answer
    is stripped before it is brought into its canonical spelling (`Path.meant`),
    whereas an identifier is only brought into its canonical spelling.  So an
    identifier that is copied comes back as it is exactly if there are no blanks
    around it (`Path.meant_eq_self_iff`).

    An object that spells an assessment out (`Assessment.IsWrittenIn`) is accepted
    if every path in it means a known one and is a text to the validator, and it
    is read with each path replaced by what it means
    (`Assessment.accepted_copies_iff`).  Every path is a text to a validator that
    lets halves of surrogate pairs in (`Field.isTaken`); to one that does not, no
    path with a half in it is, nor one with a character that stands for a half.

    An answer that copies the path of a file with a blank in front of it is
    refused (`not_accepted_indented`). -/

namespace SourceAtlas

/-! ## Checks with a condition -/

namespace Checked

variable {α β : Type} {c : Checked α} {cf : Checked (α → β)} {p q : Prop} {a : α}

/-- A check yields a value if a condition holds, and otherwise it yields none. -/
def YieldsIf (c : Checked α) (p : Prop) (a : α) : Prop :=
  ∀ b, c = .valid b ↔ p ∧ b = a

namespace YieldsIf

theorem of_valid (h : c = .valid a) : c.YieldsIf True a := by
  intro b
  rw [h, Checked.valid.injEq, true_and]
  exact eq_comm

theorem congr (h : c.YieldsIf p a) (hpq : p ↔ q) : c.YieldsIf q a :=
  fun b => (h b).trans (and_congr_left' hpq)

theorem map (h : c.YieldsIf p a) (f : α → β) : (f <$> c).YieldsIf p (f a) := by
  intro b
  rw [fmap_eq_valid]
  constructor
  · rintro ⟨a', ha', rfl⟩
    obtain ⟨hp, rfl⟩ := (h a').mp ha'
    exact ⟨hp, rfl⟩
  · rintro ⟨hp, rfl⟩
    exact ⟨a, (h a).mpr ⟨hp, rfl⟩, rfl⟩

/-- A combined check yields a value if both conditions hold. -/
theorem seq {f : α → β} (hf : cf.YieldsIf p f) (h : c.YieldsIf q a) :
    (cf <*> c).YieldsIf (p ∧ q) (f a) := by
  intro b
  rw [seq_eq_valid]
  constructor
  · rintro ⟨f', a', hf', ha', rfl⟩
    obtain ⟨hp, rfl⟩ := (hf f').mp hf'
    obtain ⟨hq, rfl⟩ := (h a').mp ha'
    exact ⟨⟨hp, hq⟩, rfl⟩
  · rintro ⟨⟨hp, hq⟩, rfl⟩
    exact ⟨f, a, (hf f).mpr ⟨hp, rfl⟩, (h a).mpr ⟨hq, rfl⟩, rfl⟩

/-- A list yields its values if the conditions of all items hold. -/
theorem all {γ : Type} {check : α → Checked β} {holds : γ → Prop} {value : γ → β}
    {items : List α} {xs : List γ}
    (h : List.Forall₂ (fun item x => (check item).YieldsIf (holds x) (value x)) items xs) :
    (Checked.all check items).YieldsIf (∀ x ∈ xs, holds x) (xs.map value) := by
  induction h with
  | nil => exact (of_valid rfl).congr (by simp)
  | cons hfirst _ ih =>
      have hboth := (hfirst.map List.cons).seq ih
      exact hboth.congr List.forall_mem_cons.symm

end YieldsIf

end Checked

namespace Field

variable {α : Type} {entries : Entries} {names : List String} {reads : Entries → α → Prop}
  {check : Entries → Checked α} {holds : α → Prop} {value : α → α}

/-- A list of objects that are spelled out yields them if their conditions hold. -/
theorem yieldsIf_list (hcheck : ∀ es a, reads es a → (check es).YieldsIf (holds a) (value a))
    {v : Value} {as : List α} (hv : IsListOf reads v as) :
    (list (object check) v).YieldsIf (∀ a ∈ as, holds a) (as.map value) := by
  obtain ⟨items, hitems, hall⟩ := hv
  have hlist : list (object check) v = Checked.all (object check) items := by
    rcases hitems with rfl | rfl <;> rfl
  rw [hlist]
  refine Checked.YieldsIf.all (hall.imp fun item a hitem => ?_)
  obtain ⟨es, rfl, hes⟩ := hitem
  exact hcheck es a hes

/-- A list that is missing is empty. -/
theorem yieldsIf_optional_list {as : List α}
    (h : Holds entries names (some []) (IsListOf reads) as)
    (hcheck : ∀ es a, reads es a → (check es).YieldsIf (holds a) (value a)) :
    (optional entries names [] (list (object check))).YieldsIf (∀ a ∈ as, holds a)
      (as.map value) := by
  rcases h with ⟨v, hfind, hv⟩ | ⟨hfind, hdefault⟩
  · rw [optional, hfind]
    exact yieldsIf_list hcheck hv
  · rw [optional, hfind, ← Option.some.inj hdefault]
    exact (Checked.YieldsIf.of_valid rfl).congr (by simp)

/-- An object that may be missing or nothing. -/
theorem yieldsIf_optional_object {o : Option α}
    (h : Holds entries names (some none) (IsObjectOrNull reads) o)
    (hcheck : ∀ es a, reads es a → (check es).YieldsIf (holds a) (value a)) :
    (optional entries names none (objectOrNull check)).YieldsIf (∀ a ∈ o, holds a)
      (o.map value) := by
  rcases h with ⟨v, hfind, ⟨rfl, rfl⟩ | ⟨es, a, rfl, rfl, hes⟩⟩ | ⟨hfind, hdefault⟩
  · rw [optional, hfind]
    exact (Checked.YieldsIf.of_valid rfl).congr (by simp)
  · rw [optional, hfind]
    exact ((hcheck es a hes).map some).congr (by simp)
  · rw [optional, hfind, ← Option.some.inj hdefault]
    exact (Checked.YieldsIf.of_valid rfl).congr (by simp)

end Field

/-! ## Paths -/

/-- The path that a text in an answer means: without the blanks around it, and in canonical
    spelling. -/
def Path.meant (p : String) : String :=
  .ofList (normalizeChars (Text.strip p.toList))

/-- **COPIED PATHS**: a canonical path means itself exactly if there are no blanks around it. -/
theorem Path.meant_eq_self_iff {p : String} (h : normalize p = p) :
    meant p = p ↔ Text.strip p.toList = p.toList := by
  constructor
  · intro hmeant
    have hchars : normalizeChars (Text.strip p.toList) = p.toList := by
      rw [← String.toList_ofList (l := normalizeChars (Text.strip p.toList))]
      exact congrArg String.toList hmeant
    -- Neither step makes a text longer, so nothing was stripped.
    have hlength : p.toList.length ≤ (Text.strip p.toList).length := by
      calc p.toList.length = (normalizeChars (Text.strip p.toList)).length := by rw [hchars]
        _ ≤ (Text.replaceChar '\\' '/' (Text.strip p.toList)).length :=
            (dropHere_suffix _).length_le
        _ = (Text.strip p.toList).length := List.length_map ..
    exact (Text.infix_of_strip p.toList).eq_of_length
      ((Text.infix_of_strip p.toList).length_le.antisymm hlength)
  · intro hstrip
    rw [meant, hstrip]
    exact h

variable {halves : Bool}

/-- A path in an answer is read as what it means, if its text is taken. -/
theorem yieldsIf_answeredPath (p : String) :
    (answeredPath halves (.text p)).YieldsIf (Field.isTaken halves p = true) (Path.meant p) := by
  intro b
  rw [answeredPath, Checked.map_eq_valid, Field.text, Field.textOf?]
  by_cases h : Field.isTaken halves p = true
  · rw [if_pos h]
    constructor
    · rintro ⟨s, hs, rfl⟩
      obtain rfl := Checked.valid.inj hs
      exact ⟨h, rfl⟩
    · rintro ⟨-, rfl⟩
      exact ⟨p, rfl, rfl⟩
  · rw [if_neg h]
    constructor
    · rintro ⟨s, hs, -⟩
      exact nomatch hs
    · rintro ⟨hp, -⟩
      exact absurd hp h

/-! ## Objects that are spelled out -/

/-- An object spells out a file of a graph: its path stands there letter by letter. -/
structure OverlayNode.IsWrittenIn (halves : Bool) (entries : Entries) (n : OverlayNode) :
    Prop where
  id : entries.lookup "id" = some (.text n.id)
  label : Field.optional entries ["label"] none (Field.textOrNull halves) = .valid n.label
  kind : Field.optional entries ["type"] none (Field.textOrNull halves) = .valid n.kind

/-- An object spells out a dependency: the paths of its ends stand there letter by letter. -/
structure OverlayEdge.IsWrittenIn (halves : Bool) (entries : Entries) (e : OverlayEdge) :
    Prop where
  source : entries.lookup "source" = some (.text e.source)
  target : entries.lookup "target" = some (.text e.target)
  kind : Field.optional entries ["kind", "type"] "import" (Field.text halves) = .valid e.kind
  weight : Field.optional entries ["weight", "strength"] 1 Field.natural = .valid e.weight

/-- An object spells out a graph. -/
structure Overlay.IsWrittenIn (halves : Bool) (entries : Entries) (o : Overlay) : Prop where
  nodes : Field.Holds entries ["nodes"] (some [])
    (Field.IsListOf (OverlayNode.IsWrittenIn halves)) o.nodes
  edges : Field.Holds entries ["edges"] (some [])
    (Field.IsListOf (OverlayEdge.IsWrittenIn halves)) o.edges

/-- An object spells out an assessment, in either layout: all its other fields are right, and its
    graph is spelled out. -/
structure Assessment.IsWrittenIn (halves : Bool) (entries : Entries) (a : Assessment) : Prop
    extends Assessment.ReadsRest halves (Assessment.liftNested entries) a where
  overlay : Field.Holds (Assessment.liftNested entries) ["graphOverlay", "graph_overlay"]
    (some none) (Field.IsObjectOrNull (Overlay.IsWrittenIn halves)) a.overlay

/-- A file with the path that is meant. -/
def OverlayNode.meant (n : OverlayNode) : OverlayNode :=
  { n with id := Path.meant n.id }

/-- A dependency between the paths that are meant. -/
def OverlayEdge.meant (e : OverlayEdge) : OverlayEdge :=
  { e with source := Path.meant e.source, target := Path.meant e.target }

/-- A graph with the paths that are meant. -/
def Overlay.meant (o : Overlay) : Overlay :=
  ⟨o.nodes.map (·.meant), o.edges.map (·.meant)⟩

/-- An assessment with the paths that are meant. -/
def Assessment.meant (a : Assessment) : Assessment :=
  { a with overlay := a.overlay.map (·.meant) }

theorem OverlayNode.yieldsIf_ofEntries {entries : Entries} {n : OverlayNode}
    (h : n.IsWrittenIn halves entries) :
    (ofEntries halves entries).YieldsIf (Field.isTaken halves n.id = true) n.meant := by
  have hid : (Field.required entries ["id"] (answeredPath halves)).YieldsIf
      (Field.isTaken halves n.id = true) (Path.meant n.id) := by
    rw [Field.required_of_lookup h.id]
    exact yieldsIf_answeredPath n.id
  have hall := ((hid.map OverlayNode.mk).seq (.of_valid h.label)).seq (.of_valid h.kind)
  exact hall.congr (by simp)

theorem OverlayEdge.yieldsIf_ofEntries {entries : Entries} {e : OverlayEdge}
    (h : e.IsWrittenIn halves entries) :
    (ofEntries halves entries).YieldsIf
      (Field.isTaken halves e.source = true ∧ Field.isTaken halves e.target = true) e.meant := by
  have hsource : (Field.required entries ["source"] (answeredPath halves)).YieldsIf
      (Field.isTaken halves e.source = true) (Path.meant e.source) := by
    rw [Field.required_of_lookup h.source]
    exact yieldsIf_answeredPath e.source
  have htarget : (Field.required entries ["target"] (answeredPath halves)).YieldsIf
      (Field.isTaken halves e.target = true) (Path.meant e.target) := by
    rw [Field.required_of_lookup h.target]
    exact yieldsIf_answeredPath e.target
  have hall := (((hsource.map OverlayEdge.mk).seq htarget).seq (.of_valid h.kind)).seq
    (.of_valid h.weight)
  exact hall.congr (by simp)

namespace Overlay

theorem yieldsIf_ofEntries {entries : Entries} {o : Overlay} (h : o.IsWrittenIn halves entries) :
    (ofEntries halves entries).YieldsIf (∀ p ∈ o.mentions, Field.isTaken halves p = true)
      o.meant := by
  have hnodes := Field.yieldsIf_optional_list h.nodes fun _ _ => OverlayNode.yieldsIf_ofEntries
  have hedges := Field.yieldsIf_optional_list h.edges fun _ _ => OverlayEdge.yieldsIf_ofEntries
  have hpaths : (∀ p ∈ o.mentions, Field.isTaken halves p = true) ↔ _ := forall_mentions_iff
  exact ((hnodes.map Overlay.mk).seq hedges).congr hpaths.symm

theorem mentions_meant (o : Overlay) : o.meant.mentions = o.mentions.map Path.meant := by
  simp only [mentions, meant, endsOf, List.map_append, List.map_map, List.map_flatMap,
    List.flatMap_map]
  rfl

/-- A graph means itself if all its paths do. -/
theorem meant_eq_self_iff {o : Overlay} :
    o.meant = o ↔ ∀ p ∈ o.mentions, Path.meant p = p := by
  constructor
  · intro h
    have hmentions : o.mentions.map Path.meant = o.mentions.map id := by
      rw [← mentions_meant, h, List.map_id]
    exact List.map_inj_left.mp hmentions
  · intro h
    obtain ⟨hnodes, hedges⟩ := forall_mentions_iff.mp h
    have hnode : ∀ n ∈ o.nodes, n.meant = n := by
      intro n hn
      rw [OverlayNode.meant, hnodes n hn]
    have hedge : ∀ e ∈ o.edges, e.meant = e := by
      intro e he
      rw [OverlayEdge.meant, (hedges e he).1, (hedges e he).2]
    rw [meant, List.map_congr_left hnode, List.map_congr_left hedge, List.map_id', List.map_id']

end Overlay

namespace Assessment

theorem yieldsIf_ofEntries {entries : Entries} {a : Assessment}
    (h : a.IsWrittenIn halves entries) :
    (ofEntries halves (liftNested entries)).YieldsIf
      (∀ o ∈ a.overlay, ∀ p ∈ o.mentions, Field.isTaken halves p = true) a.meant := by
  have hoverlay := Field.yieldsIf_optional_object h.overlay fun _ _ => Overlay.yieldsIf_ofEntries
  have hrest := ((((((Checked.YieldsIf.of_valid h.summary).map Assessment.mk).seq
    (.of_valid h.patterns)).seq (.of_valid h.recommendations)).seq
    (.of_valid h.complexityScore)).seq (.of_valid h.qualityScore)).seq
    (.of_valid h.complexityFactors)
  have hall := (hrest.seq (.of_valid h.architecture)).seq hoverlay
  exact hall.congr (by simp)

/-- An object that spells out an assessment is read with the paths that are meant, if they are
    known. -/
theorem yieldsIf_ofValue {entries : Entries} {a : Assessment} (known : List String)
    (h : a.IsWrittenIn halves entries) :
    (ofValue halves (some known) (.record entries)).YieldsIf
      (∀ o ∈ a.overlay, ∀ p ∈ o.mentions, Field.isTaken halves p = true ∧ Path.meant p ∈ known)
      a.meant := by
  have hwithin : a.meant.isWithin known = true
      ↔ ∀ o ∈ a.overlay, ∀ p ∈ o.mentions, Path.meant p ∈ known := by
    cases ho : a.overlay with
    | none => simp [isWithin, meant, ho]
    | some o =>
        simp [isWithin, meant, ho, Overlay.isWithin_iff, Overlay.mentions_meant]
  intro b
  rw [ofValue, Checked.when_eq_valid, Field.object, yieldsIf_ofEntries h b]
  constructor
  · rintro ⟨⟨htaken, rfl⟩, hknown⟩
    exact ⟨fun o ho p hp => ⟨htaken o ho p hp, hwithin.mp hknown o ho p hp⟩, rfl⟩
  · rintro ⟨hpaths, rfl⟩
    exact ⟨⟨fun o ho p hp => (hpaths o ho p hp).1, rfl⟩,
      hwithin.mpr fun o ho p hp => (hpaths o ho p hp).2⟩

/-- **COPIED FILE LISTS**: an answer that copies the identifiers of analysed files into its graph is
    read as it is written exactly if there are no blanks around them and the validator takes them
    for texts, which it does of all of them where halves of surrogate pairs are let in.  Otherwise
    the answer is refused, unless each means an analysed file; then it is read as if these had been
    written. -/
theorem accepted_copies_iff {ν : Type} {outlines : List (Outline ν)} {entries : Entries}
    {a : Assessment} {o : Overlay} (hwritten : a.IsWrittenIn halves entries)
    (ho : a.overlay = some o) (hcopied : ∀ p ∈ o.mentions, p ∈ outlines.map (·.nodeId)) :
    (ofValue halves (some (outlines.map (·.nodeId))) (.record entries) = .valid a
      ↔ ∀ p ∈ o.mentions, Field.isTaken halves p = true ∧ Text.strip p.toList = p.toList)
    ∧ ∀ b, ofValue halves (some (outlines.map (·.nodeId))) (.record entries) = .valid b
      ↔ (∀ p ∈ o.mentions,
          Field.isTaken halves p = true ∧ Path.meant p ∈ outlines.map (·.nodeId))
        ∧ b = a.meant := by
  have hread : ∀ b, ofValue halves (some (outlines.map (·.nodeId))) (.record entries) = .valid b
      ↔ (∀ p ∈ o.mentions,
          Field.isTaken halves p = true ∧ Path.meant p ∈ outlines.map (·.nodeId))
        ∧ b = a.meant := by
    intro b
    rw [yieldsIf_ofValue _ hwritten b, ho]
    simp only [Option.mem_some_iff, forall_eq']
  have hcanonical : ∀ p ∈ o.mentions, Path.normalize p = p := by
    intro p hp
    obtain ⟨f, -, rfl⟩ := List.mem_map.mp (hcopied p hp)
    exact Path.normalize_normalize f.path
  have hself : a = a.meant ↔ ∀ p ∈ o.mentions, Text.strip p.toList = p.toList := by
    calc a = a.meant
        ↔ o.meant = o := by
          constructor
          · intro h
            have hoverlay := congrArg Assessment.overlay h
            rw [meant, ho] at hoverlay
            exact (Option.some.inj hoverlay).symm
          · intro h
            rw [meant, ho, Option.map_some, h, ← ho]
      _ ↔ ∀ p ∈ o.mentions, Path.meant p = p := Overlay.meant_eq_self_iff
      _ ↔ ∀ p ∈ o.mentions, Text.strip p.toList = p.toList :=
          forall₂_congr fun p hp => Path.meant_eq_self_iff (hcanonical p hp)
  refine ⟨?_, hread⟩
  rw [hread a, hself]
  constructor
  · rintro ⟨hpaths, hstrip⟩ p hp
    exact ⟨(hpaths p hp).1, hstrip p hp⟩
  · intro h
    refine ⟨fun p hp => ⟨(h p hp).1, ?_⟩, fun p hp => (h p hp).2⟩
    rw [(Path.meant_eq_self_iff (hcanonical p hp)).mpr (h p hp).2]
    exact hcopied p hp

/-! ## An answer that is accepted, and one that is not -/

/-- Two files, one of them with a path of its own. -/
def filesWith (path : String) : List (Outline Int) :=
  [{ path, language := .python, lineCount := 1, commentCount := 0 },
    { path := "b.py", language := .python, lineCount := 1, commentCount := 0 }]

/-- A graph with these two files. -/
def overlayWith (path : String) : Overlay where
  nodes := [⟨path, none, none⟩]
  edges := [⟨"b.py", path, "import", 3⟩]

/-- An assessment with this graph. -/
def assessmentWith (path : String) : Assessment where
  summary := "s"
  patterns := []
  recommendations := []
  complexityScore := 1.0
  qualityScore := 2.0
  complexityFactors := []
  architecture := none
  overlay := some (overlayWith path)

/-- An object that spells it out. -/
def entriesWith (path : String) : Entries :=
  [("summary", .text "s"), ("patterns", .list []), ("recommendations", .list []),
    ("complexityScore", .float 1.0), ("qualityScore", .float 2.0),
    ("graphOverlay", .record [("nodes", .list [.record [("id", .text path)]]),
      ("edges", .list [.record [("source", .text "b.py"), ("target", .text path),
        ("strength", .int 3)]])])]

theorem isWrittenIn_entriesWith (path : String) :
    (assessmentWith path).IsWrittenIn halves (entriesWith path) := by
  have hnode : OverlayNode.IsWrittenIn halves [("id", .text path)] ⟨path, none, none⟩ :=
    ⟨rfl, rfl, rfl⟩
  have hedge : OverlayEdge.IsWrittenIn halves
      [("source", .text "b.py"), ("target", .text path), ("strength", .int 3)]
      ⟨"b.py", path, "import", 3⟩ := ⟨rfl, rfl, rfl, rfl⟩
  have hscore : Field.score (.float 1.0) = .valid 1.0 :=
    Checked.when_eq_valid.mpr ⟨rfl, by decide +kernel⟩
  have hpercentage : Field.percentage (.float 2.0) = .valid 2.0 :=
    Checked.when_eq_valid.mpr ⟨rfl, by decide +kernel⟩
  refine ⟨⟨rfl, rfl, rfl, (Field.required_of_lookup rfl).trans hscore,
    (Field.required_of_lookup rfl).trans hpercentage, rfl, rfl⟩,
    Or.inl ⟨_, rfl, Or.inr ⟨_, _, rfl, rfl, ⟨?_, ?_⟩⟩⟩⟩
  · exact Or.inl ⟨_, rfl, _, Or.inl rfl, .cons ⟨_, rfl, hnode⟩ .nil⟩
  · exact Or.inl ⟨_, rfl, _, Or.inl rfl, .cons ⟨_, rfl, hedge⟩ .nil⟩

/-- A path with a blank inside is accepted as it is. -/
theorem accepted_copies_inner :
    (assessmentWith "a b.py").IsWrittenIn false (entriesWith "a b.py")
    ∧ (assessmentWith "a b.py").overlay = some (overlayWith "a b.py")
    ∧ (∀ p ∈ (overlayWith "a b.py").mentions, p ∈ (filesWith "./a b.py").map (·.nodeId))
    ∧ ofValue false (some ((filesWith "./a b.py").map (·.nodeId))) (.record (entriesWith "a b.py"))
      = .valid (assessmentWith "a b.py") := by
  have hcopied : ∀ p ∈ (overlayWith "a b.py").mentions,
      p ∈ (filesWith "./a b.py").map (·.nodeId) := by decide +kernel
  refine ⟨isWrittenIn_entriesWith _, rfl, hcopied, ?_⟩
  exact (accepted_copies_iff (isWrittenIn_entriesWith _) rfl hcopied).1.mpr (by decide +kernel)

/-- A path with a blank in front is refused, although it is copied and everything else is right,
    whether halves of surrogate pairs are let in or not. -/
theorem not_accepted_indented :
    (assessmentWith " a.py").IsWrittenIn false (entriesWith " a.py")
    ∧ (assessmentWith " a.py").IsWrittenIn true (entriesWith " a.py")
    ∧ (assessmentWith " a.py").overlay = some (overlayWith " a.py")
    ∧ (∀ p ∈ (overlayWith " a.py").mentions, p ∈ (filesWith " a.py").map (·.nodeId))
    ∧ (ofValue false (some ((filesWith " a.py").map (·.nodeId)))
      (.record (entriesWith " a.py"))).errors = 1
    ∧ (ofValue true (some ((filesWith " a.py").map (·.nodeId)))
      (.record (entriesWith " a.py"))).errors = 1 :=
  ⟨isWrittenIn_entriesWith _, isWrittenIn_entriesWith _, rfl, by decide +kernel, by decide +kernel,
    by decide +kernel⟩

end Assessment

end SourceAtlas
