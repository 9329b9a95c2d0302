import SourceAtlas.Proofs.Enrichment.Copies

/-! # Reading a report again

    An accepted assessment can be shown in a report and the report read as an
    answer.  What was read from a field is written in the form that the field
    takes, so it is read again (`Field.Rereads`), and so is a list of it.  So a
    report spells its assessment out (`Assessment.isWrittenIn_reportEntries`), and
    it is accepted, whatever the answer was.

    It need not be read as the same assessment.  A path is stripped first and
    brought into canonical spelling afterwards, and where a `./` is dropped, a
    blank can come to stand in front that nobody strips any more.  Read again, such
    a path means another one.  Nothing else can differ, so a report is read as what
    it reports exactly if no path of the graph begins with a blank
    (`ofValue_report_iff`, `not_reread_indented`). -/

namespace SourceAtlas

variable {halves : Bool}

/-! ## Fields -/

namespace Field

variable {α : Type} {check : Value → Checked α} {write : α → Value} {entries : Entries}
  {names : List String} {a : α}

/-- Whatever is read from a value is read again from what is written for it. -/
def Rereads (check : Value → Checked α) (write : α → Value) : Prop :=
  ∀ v a, check v = .valid a → check (write a) = .valid a

theorem isTaken_of_isWellFormed {s : String} (h : Text.isWellFormed s = true) :
    isTaken halves s = true := by
  rw [isTaken, h, Bool.or_true]

theorem isTaken_of_text {v : Value} {s : String} (h : text halves v = .valid s) :
    isTaken halves s = true := by
  have hs := Checked.ofOption_eq_valid.mp h
  cases v with
  | text t =>
      obtain ⟨htaken, hts⟩ := Option.ite_none_right_eq_some.mp hs
      exact Option.some.inj hts ▸ htaken
  | bytes data => exact isTaken_of_isWellFormed (Option.filter_eq_some_iff.mp hs).2
  | _ => exact nomatch hs

theorem text_of_isTaken {s : String} (h : isTaken halves s = true) :
    text halves (.text s) = .valid s := by
  rw [text, textOf?, if_pos h]
  rfl

theorem rereads_text : Rereads (text halves) .text :=
  fun _ _ h => text_of_isTaken (isTaken_of_text h)

/-- The words that stand in for texts that are missing are read as they are. -/
theorem text_default {s : String} (h : s ∈ ["import", "Unknown"]) :
    text halves (.text s) = .valid s := by
  refine text_of_isTaken (isTaken_of_isWellFormed ?_)
  revert s
  decide

/-- A test that was passed is passed again. -/
theorem Rereads.when (h : Rereads check write) (test : α → Bool) :
    Rereads (fun v => (check v).when test) write := by
  intro v a hv
  obtain ⟨hcheck, htest⟩ := Checked.when_eq_valid.mp hv
  exact Checked.when_eq_valid.mpr ⟨h v a hcheck, htest⟩

theorem rereads_number : Rereads number .float :=
  fun _ _ _ => rfl

theorem rereads_natural : Rereads natural .nat := by
  intro v n _
  have hwhole : (whole (.nat n)).when (0 ≤ ·) = .valid (n : Int) :=
    Checked.when_eq_valid.mpr ⟨rfl, decide_eq_true (Int.natCast_nonneg n)⟩
  rw [natural, hwhole]
  rfl

theorem rereads_textOrNull : Rereads (textOrNull halves) .textOrNull := by
  intro v o h
  cases o with
  | none => rfl
  | some s =>
      have htaken : isTaken halves s = true := by
        unfold textOrNull at h
        split at h
        · exact nomatch h
        · obtain ⟨t, ht, hts⟩ := Checked.map_eq_valid.mp h
          exact Option.some.inj hts ▸ isTaken_of_text ht
      show (text halves (.text s)).map some = .valid (some s)
      rw [text_of_isTaken htaken]
      rfl

theorem rereads_severity : Rereads Severity.ofValue (fun s => .text s.word) := by
  intro v s _
  have hword : isTaken false s.word = true := by
    cases s <;> decide
  rw [Severity.ofValue, textOf?, if_pos hword, Option.bind_some, Severity.ofWord?_word]
  rfl

/-- A list is read again item by item. -/
theorem Rereads.list (h : Rereads check write) :
    Rereads (Field.list check) (fun as => .list (as.map write)) := by
  have hitems : ∀ items as, Checked.all check items = .valid as →
      Checked.all check (as.map write) = .valid as := by
    intro items as hall
    rw [Checked.all_eq_valid] at hall ⊢
    rw [List.forall₂_map_left_iff, List.forall₂_same]
    intro a ha
    obtain ⟨i, hi, rfl⟩ := List.getElem_of_mem ha
    exact h _ _ (hall.get (hall.length_eq ▸ hi) hi)
  intro v as hv
  unfold Field.list at hv
  split at hv
  · exact hitems _ as hv
  · exact hitems _ as hv
  · exact nomatch hv

theorem exists_value_of_required (h : required entries names check = .valid a) :
    ∃ v, check v = .valid a := by
  have hholds : Holds entries names none (fun v a => check v = .valid a) a :=
    holds_of_required h fun _ hv => hv
  exact hholds.exists_value

/-- A field that has to be there. -/
theorem Rereads.of_required (h : Rereads check write)
    (hread : required entries names check = .valid a) : check (write a) = .valid a := by
  obtain ⟨v, hv⟩ := exists_value_of_required hread
  exact h v a hv

/-- A field with a default, if the default is read again, too. -/
theorem Rereads.of_optional {default : α} (h : Rereads check write)
    (hdefault : check (write default) = .valid default)
    (hread : optional entries names default check = .valid a) : check (write a) = .valid a := by
  have hholds : Holds entries names (some default) (fun v a => check v = .valid a) a :=
    holds_of_optional hread fun _ hv => hv
  rcases hholds with ⟨v, -, hv⟩ | ⟨-, hmissing⟩
  · exact h v a hv
  · rw [← Option.some.inj hmissing]
    exact hdefault

theorem rereads_texts : Rereads (texts halves) .texts :=
  rereads_text.list

end Field

/-! ## Objects -/

theorem Remark.rereads : Field.Rereads (Field.object (ofEntries halves)) report := by
  intro v r h
  obtain ⟨entries, -, h⟩ := Field.object_eq_valid.mp h
  simp only [ofEntries, Checked.seq_eq_valid, Checked.fmap_eq_valid] at h
  obtain ⟨_, severity, ⟨_, description, ⟨_, line, ⟨_, name, ⟨kind, hkind, rfl⟩, hname, rfl⟩,
    hline, rfl⟩, hdescription, rfl⟩, hseverity, rfl⟩ := h
  have hall := (((((Checked.YieldsIf.of_valid (Field.rereads_text.of_required hkind)).map
    Remark.mk).seq (.of_valid (Field.rereads_text.of_required hname))).seq
    (.of_valid (Field.rereads_natural.of_optional rfl hline))).seq
    (.of_valid (Field.rereads_text.of_required hdescription))).seq
    (.of_valid (Field.rereads_severity.of_optional rfl hseverity))
  exact (hall _).mpr ⟨by simp, rfl⟩

theorem Architecture.rereads : Field.Rereads (Field.object (ofEntries halves)) report := by
  intro v a h
  obtain ⟨entries, -, h⟩ := Field.object_eq_valid.mp h
  simp only [ofEntries, Checked.seq_eq_valid, Checked.fmap_eq_valid] at h
  obtain ⟨_, issues, ⟨_, patterns, ⟨kind, hkind, rfl⟩, hpatterns, rfl⟩, hissues, rfl⟩ := h
  have hkind := Field.rereads_text.of_optional (Field.text_default (by decide)) hkind
  have hall := (((Checked.YieldsIf.of_valid hkind).map Architecture.mk).seq
    (.of_valid (Field.rereads_texts.of_optional rfl hpatterns))).seq
    (.of_valid (Field.rereads_texts.of_optional rfl hissues))
  exact (hall _).mpr ⟨by simp, rfl⟩

/-- An object that may be missing is read again if objects of its kind are. -/
theorem Field.Rereads.objectOrNull {α : Type} {check : Entries → Checked α} {write : α → Value}
    (h : Rereads (object check) write) :
    Rereads (Field.objectOrNull check) (fun o => (o.map write).getD .null) := by
  intro v o hv
  have hobject : IsObjectOrNull (fun es a => check es = .valid a) v o :=
    isObjectOrNull_of_objectOrNull (fun _ _ hes => hes) hv
  rcases hobject with ⟨-, rfl⟩ | ⟨es, a, -, rfl, hes⟩
  · rfl
  · have hagain := h (.record es) a hes
    obtain ⟨written, hwritten, -⟩ := object_eq_valid.mp hagain
    show Field.objectOrNull check (write a) = .valid (some a)
    rw [hwritten] at hagain ⊢
    exact Checked.map_eq_valid.mpr ⟨a, hagain, rfl⟩

/-! ## Graphs -/

/-- A path as an answer can bring it. -/
def Path.IsAnswered (halves : Bool) (p : String) : Prop :=
  ∃ v, answeredPath halves v = .valid p

/-- A path that begins with a blank. -/
def Path.isIndented (p : String) : Bool :=
  p.toList.head?.any Text.isBlank

namespace Path.IsAnswered

variable {p : String}

theorem exists_text (h : IsAnswered halves p) :
    ∃ s, Field.isTaken halves s = true ∧ p = meant s := by
  obtain ⟨v, hv⟩ := h
  obtain ⟨s, hs, rfl⟩ := Checked.map_eq_valid.mp hv
  exact ⟨s, Field.isTaken_of_text hs, rfl⟩

/-- Nothing is put into a path but slashes. -/
theorem isTaken (h : IsAnswered halves p) : Field.isTaken halves p = true := by
  obtain ⟨s, hs, rfl⟩ := h.exists_text
  rw [Field.isTaken, Bool.or_eq_true] at hs ⊢
  refine hs.imp_right fun hs => ?_
  rw [Text.isWellFormed, meant, String.toList_ofList, List.all_eq_true]
  intro c hc
  obtain ⟨d, hd, rfl⟩ := List.mem_map.mp ((dropHere_suffix _).subset hc)
  split
  · rfl
  · exact List.all_eq_true.mp hs d ((Text.infix_of_strip _).subset hd)

/-- No path of an answer ends with a blank. -/
theorem isBlank_getLast? (h : IsAnswered halves p) :
    ∀ c ∈ p.toList.getLast?, Text.isBlank c = false := by
  obtain ⟨s, -, rfl⟩ := h.exists_text
  intro c hc
  rw [meant, String.toList_ofList] at hc
  obtain ⟨front, hfront⟩ : normalizeChars (Text.strip s.toList)
      <:+ Text.replaceChar '\\' '/' (Text.strip s.toList) := dropHere_suffix _
  have hlast : c ∈ (Text.replaceChar '\\' '/' (Text.strip s.toList)).getLast? := by
    rw [← hfront, List.getLast?_append, Option.mem_def.mp hc]
    rfl
  rw [Text.replaceChar, List.getLast?_map] at hlast
  obtain ⟨d, hd, rfl⟩ := Option.map_eq_some_iff.mp hlast
  split
  · rfl
  · exact Text.isBlank_of_mem_getLast?_strip hd

/-- A path of an answer means itself unless it begins with a blank. -/
theorem meant_eq_self_iff_isIndented (h : IsAnswered halves p) :
    meant p = p ↔ isIndented p = false := by
  obtain ⟨v, hv⟩ := h
  rw [meant_eq_self_iff (normalize_of_answeredPath hv), Text.strip_eq_self_iff,
    and_iff_left (isBlank_getLast? ⟨v, hv⟩), isIndented]
  cases p.toList.head? <;> simp

end Path.IsAnswered

/-- A list of objects is spelled out if each of them is. -/
theorem Field.isListOf_map {α : Type} {write : α → Value} {reads : Entries → α → Prop}
    {as : List α} (h : ∀ a ∈ as, ∃ entries, write a = .record entries ∧ reads entries a) :
    IsListOf reads (.list (as.map write)) as := by
  refine ⟨_, Or.inl rfl, ?_⟩
  rw [List.forall₂_map_left_iff, List.forall₂_same]
  exact h

namespace OverlayNode

variable {entries : Entries} {n : OverlayNode}

/-- A file is read from its fields. -/
theorem fields_of_ofEntries (h : ofEntries halves entries = .valid n) :
    Field.required entries ["id"] (answeredPath halves) = .valid n.id
    ∧ Field.optional entries ["label"] none (Field.textOrNull halves) = .valid n.label
    ∧ Field.optional entries ["type"] none (Field.textOrNull halves) = .valid n.kind := by
  simp only [ofEntries, Checked.seq_eq_valid, Checked.fmap_eq_valid] at h
  obtain ⟨_, kind, ⟨_, label, ⟨id, hid, rfl⟩, hlabel, rfl⟩, hkind, rfl⟩ := h
  exact ⟨hid, hlabel, hkind⟩

theorem isWrittenIn_report (h : ofEntries halves entries = .valid n) :
    ∃ written, n.report = .record written ∧ n.IsWrittenIn halves written := by
  obtain ⟨-, hlabel, hkind⟩ := fields_of_ofEntries h
  exact ⟨_, rfl, rfl, Field.rereads_textOrNull.of_optional rfl hlabel,
    Field.rereads_textOrNull.of_optional rfl hkind⟩

theorem isAnswered_id (h : ofEntries halves entries = .valid n) : Path.IsAnswered halves n.id :=
  Field.exists_value_of_required (fields_of_ofEntries h).1

end OverlayNode

namespace OverlayEdge

variable {entries : Entries} {e : OverlayEdge}

/-- A dependency is read from its fields. -/
theorem fields_of_ofEntries (h : ofEntries halves entries = .valid e) :
    (Field.required entries ["source"] (answeredPath halves) = .valid e.source
      ∧ Field.required entries ["target"] (answeredPath halves) = .valid e.target)
    ∧ Field.optional entries ["kind", "type"] "import" (Field.text halves) = .valid e.kind
    ∧ Field.optional entries ["weight", "strength"] 1 Field.natural = .valid e.weight := by
  simp only [ofEntries, Checked.seq_eq_valid, Checked.fmap_eq_valid] at h
  obtain ⟨_, weight, ⟨_, kind, ⟨_, target, ⟨source, hsource, rfl⟩, htarget, rfl⟩, hkind, rfl⟩,
    hweight, rfl⟩ := h
  exact ⟨⟨hsource, htarget⟩, hkind, hweight⟩

theorem isWrittenIn_report (h : ofEntries halves entries = .valid e) :
    ∃ written, e.report = .record written ∧ e.IsWrittenIn halves written := by
  obtain ⟨-, hkind, hweight⟩ := fields_of_ofEntries h
  exact ⟨_, rfl, rfl, rfl, Field.rereads_text.of_optional (Field.text_default (by decide)) hkind,
    Field.rereads_natural.of_optional rfl hweight⟩

theorem isAnswered_ends (h : ofEntries halves entries = .valid e) :
    Path.IsAnswered halves e.source ∧ Path.IsAnswered halves e.target :=
  (fields_of_ofEntries h).1.imp Field.exists_value_of_required Field.exists_value_of_required

end OverlayEdge

namespace Overlay

variable {entries : Entries} {o : Overlay}

/-- Each file and each dependency of an accepted graph was read from an object. -/
theorem exists_entries (h : ofEntries halves entries = .valid o) :
    (∀ n ∈ o.nodes, ∃ es, OverlayNode.ofEntries halves es = .valid n)
    ∧ ∀ e ∈ o.edges, ∃ es, OverlayEdge.ofEntries halves es = .valid e := by
  simp only [ofEntries, Checked.seq_eq_valid, Checked.fmap_eq_valid] at h
  obtain ⟨_, edges, ⟨nodes, hnodes, rfl⟩, hedges, rfl⟩ := h
  exact ⟨fun n hn => (Field.holds_of_optional hnodes fun _ =>
      Field.isListOf_of_list fun _ _ hes => hes).exists_entries hn,
    fun e he => (Field.holds_of_optional hedges fun _ =>
      Field.isListOf_of_list fun _ _ hes => hes).exists_entries he⟩

theorem isWrittenIn_report (h : ofEntries halves entries = .valid o) :
    ∃ written, o.report = .record written ∧ o.IsWrittenIn halves written := by
  obtain ⟨hnodes, hedges⟩ := exists_entries h
  refine ⟨_, rfl, Or.inl ⟨_, rfl, Field.isListOf_map fun n hn => ?_⟩,
    Or.inl ⟨_, rfl, Field.isListOf_map fun e he => ?_⟩⟩
  · obtain ⟨es, hes⟩ := hnodes n hn
    exact OverlayNode.isWrittenIn_report hes
  · obtain ⟨es, hes⟩ := hedges e he
    exact OverlayEdge.isWrittenIn_report hes

theorem isAnswered_mentions (h : ofEntries halves entries = .valid o) :
    ∀ p ∈ o.mentions, Path.IsAnswered halves p := by
  obtain ⟨hnodes, hedges⟩ := exists_entries h
  refine forall_mentions_iff.mpr ⟨fun n hn => ?_, fun e he => ?_⟩
  · obtain ⟨es, hes⟩ := hnodes n hn
    exact OverlayNode.isAnswered_id hes
  · obtain ⟨es, hes⟩ := hedges e he
    exact OverlayEdge.isAnswered_ends hes

end Overlay

/-! ## Assessments -/

namespace Assessment

variable {entries : Entries} {a : Assessment}

/-- An accepted graph was read from an object. -/
theorem Reads.exists_overlay (h : a.Reads halves entries) {o : Overlay} (ho : a.overlay = some o) :
    ∃ es, Overlay.ofEntries halves es = .valid o := by
  have hgraph := Field.holds_of_optional h.overlay fun _ =>
    Field.isObjectOrNull_of_objectOrNull fun _ _ hes => hes
  rw [ho] at hgraph
  exact hgraph.exists_object

/-- A report spells its assessment out. -/
theorem isWrittenIn_report (h : a.Reads halves entries) :
    ∃ written, a.report = .record written ∧ a.IsWrittenIn halves written := by
  have hoverlay : Field.IsObjectOrNull (Overlay.IsWrittenIn halves)
      ((a.overlay.map (·.report)).getD .null) a.overlay := by
    cases ho : a.overlay with
    | none => exact Or.inl ⟨rfl, rfl⟩
    | some o =>
        obtain ⟨es, hes⟩ := h.exists_overlay ho
        obtain ⟨written, hreport, hwritten⟩ := Overlay.isWrittenIn_report hes
        exact Or.inr ⟨written, o, hreport, rfl, hwritten⟩
  refine ⟨_, rfl, ⟨?_, ?_, ?_, ?_, ?_, ?_, ?_⟩, Or.inl ⟨_, rfl, hoverlay⟩⟩
  · exact (Field.rereads_text.when _).of_required h.summary
  · exact Remark.rereads.list.of_required h.patterns
  · exact Field.rereads_texts.of_required h.recommendations
  · exact (Field.rereads_number.when _).of_required h.complexityScore
  · exact (Field.rereads_number.when _).of_required h.qualityScore
  · exact Field.rereads_texts.of_optional rfl h.complexityFactors
  · exact Architecture.rereads.objectOrNull.of_optional rfl h.architecture

theorem Reads.isAnswered_mentions (h : a.Reads halves entries) :
    ∀ o ∈ a.overlay, ∀ p ∈ o.mentions, Path.IsAnswered halves p := by
  intro o ho
  obtain ⟨es, hes⟩ := h.exists_overlay ho
  exact Overlay.isAnswered_mentions hes

/-- A report is read with the paths that are meant. -/
theorem Reads.ofValue_report (h : a.Reads halves entries) :
    ofValue halves none a.report = .valid a.meant := by
  obtain ⟨written, hreport, hwritten⟩ := isWrittenIn_report h
  have hagain : ofEntries halves (liftNested written) = .valid a.meant :=
    (yieldsIf_ofEntries hwritten _).mpr
      ⟨fun o ho p hp => (h.isAnswered_mentions o ho p hp).isTaken, rfl⟩
  rw [hreport]
  exact Checked.when_eq_valid.mpr ⟨hagain, rfl⟩

/-- An assessment means itself if all paths of its graph do. -/
theorem meant_eq_self_iff :
    a.meant = a ↔ ∀ o ∈ a.overlay, ∀ p ∈ o.mentions, Path.meant p = p := by
  have hoverlay : a.meant = a ↔ a.overlay.map (·.meant) = a.overlay :=
    ⟨congrArg overlay, fun h => by rw [meant, h]⟩
  rw [hoverlay]
  cases a.overlay with
  | none => simp
  | some o => simp [Overlay.meant_eq_self_iff]

/-- What is accepted was read from the fields of an object. -/
theorem exists_reads {known : Option (List String)} {v : Value}
    (h : ofValue halves known v = .valid a) : ∃ entries, a.Reads halves entries := by
  obtain ⟨entries, -, hentries⟩ := Field.object_eq_valid.mp (Checked.when_eq_valid.mp h).1
  exact ⟨_, ofEntries_eq_valid_iff.mp hentries⟩

/-- **REPORTS ARE READ AGAIN**: whatever an assessment was read from, its report is accepted, and
    it is read with the paths that are meant.  So it is read as the same assessment exactly if no
    path of its graph begins with a blank, also where only known paths are accepted. -/
theorem ofValue_report_iff {known : Option (List String)} {v : Value}
    (h : ofValue halves known v = .valid a) :
    ofValue halves none a.report = .valid a.meant
    ∧ (ofValue halves known a.report = .valid a
      ↔ ∀ o ∈ a.overlay, ∀ p ∈ o.mentions, Path.isIndented p = false) := by
  obtain ⟨entries, hreads⟩ := exists_reads h
  have hagain := hreads.ofValue_report
  obtain ⟨hobject, -⟩ := Checked.when_eq_valid.mp hagain
  have hself : a.meant = a ↔ ∀ o ∈ a.overlay, ∀ p ∈ o.mentions, Path.isIndented p = false :=
    meant_eq_self_iff.trans (forall₂_congr fun o ho => forall₂_congr fun p hp =>
      (hreads.isAnswered_mentions o ho p hp).meant_eq_self_iff_isIndented)
  refine ⟨hagain, fun hsame => ?_, fun hplain => ?_⟩
  · obtain ⟨hsame, -⟩ := Checked.when_eq_valid.mp hsame
    exact hself.mp (Checked.valid.inj (hobject.symm.trans hsame))
  · refine Checked.when_eq_valid.mpr ⟨?_, (Checked.when_eq_valid.mp h).2⟩
    rw [hobject, hself.mpr hplain]

/-! ## A report that is read as the same assessment, and one that is not -/

/-- An object with a path in it is read with what this path means. -/
theorem ofValue_entriesWith {path read : String}
    (htaken : ∀ p ∈ (overlayWith path).mentions, Field.isTaken halves p = true)
    (hmeant : (overlayWith path).meant = overlayWith read) :
    ofValue halves none (.record (entriesWith path)) = .valid (assessmentWith read) := by
  refine Checked.when_eq_valid.mpr ⟨?_, rfl⟩
  refine (yieldsIf_ofEntries (isWrittenIn_entriesWith path) _).mpr ⟨fun o ho => ?_, ?_⟩
  · rw [← Option.some.inj ho]
    exact htaken
  · exact congrArg (fun o => { assessmentWith read with overlay := some o }) hmeant.symm

/-- A path with a blank inside comes back from a report, whatever stood around it first. -/
theorem reread_inner :
    ofValue false none (.record (entriesWith " ./a b.py ")) = .valid (assessmentWith "a b.py")
    ∧ ofValue false none (assessmentWith "a b.py").report = .valid (assessmentWith "a b.py") := by
  have hread : ofValue false none (.record (entriesWith " ./a b.py "))
      = .valid (assessmentWith "a b.py") :=
    ofValue_entriesWith (by decide +kernel) (by decide +kernel)
  exact ⟨hread, (ofValue_report_iff hread).2.mpr (by decide +kernel)⟩

/-- A path with a blank behind `./` does not: the report of what was accepted is read as another
    assessment. -/
theorem not_reread_indented :
    ofValue false none (.record (entriesWith "./ a.py")) = .valid (assessmentWith " a.py")
    ∧ ofValue false none (assessmentWith " a.py").report = .valid (assessmentWith "a.py")
    ∧ assessmentWith " a.py" ≠ assessmentWith "a.py" := by
  have hread : ofValue false none (.record (entriesWith "./ a.py"))
      = .valid (assessmentWith " a.py") :=
    ofValue_entriesWith (by decide +kernel) (by decide +kernel)
  have hmeant : (assessmentWith " a.py").meant = assessmentWith "a.py" :=
    congrArg (fun o => { assessmentWith "a.py" with overlay := some o })
      (by decide +kernel : (overlayWith " a.py").meant = overlayWith "a.py")
  obtain ⟨_, hreads⟩ := exists_reads hread
  refine ⟨hread, hmeant ▸ hreads.ofValue_report, fun hsame => ?_⟩
  have hoverlay : overlayWith " a.py" = overlayWith "a.py" :=
    Option.some.inj (congrArg overlay hsame)
  exact absurd hoverlay (by decide +kernel)

end Assessment

end SourceAtlas
