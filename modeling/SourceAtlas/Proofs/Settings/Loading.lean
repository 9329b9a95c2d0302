import SourceAtlas.Proofs.Settings.RoundTrip
import SourceAtlas.Proofs.Value.Compare
import SourceAtlas.Proofs.Value.Texts

/-! # Loading settings

    What a file with settings gives, whatever is in it.  Loading gives settings
    unless the file is no text, the document breaks its reader, or the name of
    the service is not a text (`NamesService`).  The settings about the analysis
    are always in bounds then (`IsBounded`): an entry is taken only where it
    fits, and has to pass its test.

    The entries about the language model are only looked up by their names.  So
    the settings are as they should be (`IsSound`) exactly if the document has
    texts there, and a time-out that is a number (`IsClean`), or if the document
    is not used at all (`load_sound_iff`). -/

namespace SourceAtlas

namespace Settings

/-! ## Settings as they should be -/

/-- The settings about the analysis are in bounds, and the service is named. -/
structure IsBounded (s : Settings) : Prop where
  cycleLimit : s.cycleLimit = .null ∨ ∃ i, s.cycleLimit = .int i ∧ 0 ≤ i
  /-- A time-out is above zero, unless it is no number. -/
  timeout : (∃ i, s.timeout = .int i ∧ 0 < i)
    ∨ ∃ x, s.timeout = .float x ∧ ((Number.whole 0).isBelow (.real x) = true ∨ x.isNaN = true)
  requestLimit : ∃ i, s.requestLimit = .int i ∧ 0 < i
  workers : s.workers = .null ∨ ∃ i, s.workers = .int i ∧ 1 ≤ i
  service : ∃ t, s.llm.service = .text t

/-- The settings are in bounds, the time-out is a number, and what names or unlocks a language model
    is a text. -/
structure IsSound (s : Settings) : Prop extends s.IsBounded where
  number : ∀ x, s.timeout = .float x → x.isNaN = false
  model : ∃ t, s.llm.model = .text t
  endpoint : ∃ t, s.llm.endpoint = .text t
  apiKey : ∃ t, s.llm.apiKey = .text t

theorem isSound_usual : usual.IsSound where
  cycleLimit := .inr ⟨20, rfl, by decide⟩
  timeout := .inr ⟨60.0, rfl, .inl rfl⟩
  requestLimit := ⟨20000, rfl, by decide⟩
  workers := .inl rfl
  service := ⟨_, rfl⟩
  number := by
    intro x hx
    obtain rfl := Value.float.inj hx
    rfl
  model := ⟨_, rfl⟩
  endpoint := ⟨_, rfl⟩
  apiKey := ⟨_, rfl⟩

/-! ## What a document says -/

/-- The entries about the language model. -/
def modelEntries (document : Value) : Entries :=
  tableOf document "llm"

/-- The entries about the analysis that are of the right kind. -/
def fittingEntries (document : Value) : Entries :=
  (tableOf document "pipeline").filter fun (name, v) => fits name v

/-- The document names a service, or leaves the choice. -/
def NamesService (document : Value) : Prop :=
  (modelEntries document).HasText "provider"

/-- The document describes settings as they should be, if it describes any. -/
structure IsClean (document : Value) : Prop where
  model : (modelEntries document).HasText "model"
  endpoint : (modelEntries document).HasText "endpoint"
  /-- There is no default for the credentials, so nothing counts as missing. -/
  apiKey : ∀ v, (modelEntries document).lookup "api_key" = some v → ∃ t, v = .text t
  number : ∀ x, (fittingEntries document).lookup "enrichment_timeout" = some (.float x) →
    x.isNaN = false

/-- There is an entry with a number that fails a test. -/
def HasNumber (entries : Entries) (name : String) (fails : Number → Bool) : Prop :=
  ∃ v n, entries.lookup name = some v ∧ v.number? = some n ∧ fails n = true

/-- An entry about the analysis is out of bounds, or its items cannot be a set. -/
def IsSpoiled (document : Value) : Prop :=
  HasNumber (fittingEntries document) "enrichment_timeout" (·.isAtMost (.whole 0))
    ∨ HasNumber (fittingEntries document) "context_char_limit" (·.isAtMost (.whole 0))
    ∨ HasNumber (fittingEntries document) "max_workers" (·.isBelow (.whole 1))
    ∨ ∃ items, (fittingEntries document).lookup "skip_dirs" = some (.list items)
      ∧ items.all (·.isMember) = false

end Settings

/-! ## The language model -/

namespace ModelSettings

open Settings

theorem exists_serviceName_iff {v : Value} :
    (∃ name, serviceName v = .ok name) ↔ v.isVoid = true ∨ ∃ t, v = .text t := by
  unfold serviceName
  split
  · next t => exact iff_of_true ⟨_, rfl⟩ (.inr ⟨t, rfl⟩)
  · next v hv =>
      split
      · next hvoid => exact iff_of_true ⟨_, rfl⟩ (.inl hvoid)
      · next hvoid =>
          refine iff_of_false (fun ⟨_, h⟩ => nomatch h) ?_
          rintro (h | ⟨t, rfl⟩)
          · exact hvoid h
          · exact hv t rfl

/-- There are settings exactly if the name of the service can be read, and nothing else can be in
    the way. -/
theorem exists_ofEntries_iff {entries : Entries} :
    (∃ m, ofEntries entries = .ok m) ↔ entries.HasText "provider" := by
  have hname : (∃ m, ofEntries entries = .ok m)
      ↔ ∃ name, serviceName ((entries.lookup "provider").getD .null) = .ok name := by
    constructor
    · rintro ⟨m, hm⟩
      obtain ⟨name, hname, -⟩ := exists_of_map hm
      exact ⟨name, hname⟩
    · rintro ⟨name, hname⟩
      exact ⟨_, congrArg (Except.map _) hname⟩
  rw [hname, exists_serviceName_iff, Entries.HasText]
  cases entries.lookup "provider" with
  | none => exact iff_of_true (.inl rfl) fun v hv => absurd hv (Option.some_ne_none v).symm
  | some v =>
      rw [forall_some_iff]
      rfl

/-- The name of the service is all that can be in the way. -/
theorem eq_notName_of_ofEntries {entries : Entries} {e : SettingsError}
    (h : ofEntries entries = .error e) : e = .notName := by
  have hname : ∀ v, serviceName v = .error e → e = .notName := by
    intro v hv
    unfold serviceName at hv
    split at hv
    · exact nomatch hv
    · split at hv
      · exact nomatch hv
      · exact (Except.error.inj hv).symm
  cases hv : serviceName ((entries.lookup "provider").getD .null) with
  | ok name =>
      have hok : ∃ m, ofEntries entries = .ok m := ⟨_, congrArg (Except.map _) hv⟩
      obtain ⟨m, hm⟩ := hok
      exact nomatch h.symm.trans hm
  | error e' =>
      have herror : ofEntries entries = .error e' := congrArg (Except.map _) hv
      exact hname _ (Except.error.inj (h.symm.trans herror) ▸ hv)

/-- Which settings are texts. -/
theorem texts_ofEntries {entries : Entries} {m : ModelSettings} (h : ofEntries entries = .ok m) :
    (∃ t, m.service = .text t)
    ∧ ((∃ t, m.model = .text t) ↔ entries.HasText "model")
    ∧ ((∃ t, m.endpoint = .text t) ↔ entries.HasText "endpoint")
    ∧ ((∃ t, m.apiKey = .text t)
      ↔ ∀ v, entries.lookup "api_key" = some v → ∃ t, v = .text t) := by
  obtain ⟨name, -, rfl⟩ := exists_of_map h
  refine ⟨⟨name, rfl⟩, Entries.exists_orElse_iff, Entries.exists_orElse_iff, ?_⟩
  show (∃ t, (entries.lookup "api_key").getD (.text "") = .text t) ↔ _
  cases entries.lookup "api_key" with
  | none => exact iff_of_true ⟨"", rfl⟩ nofun
  | some v =>
      rw [forall_some_iff]
      rfl

end ModelSettings

namespace Settings

/-! ## The analysis -/

/-- An entry of a document fits its name. -/
theorem fits_of_lookup {document v : Value} {name : String}
    (h : (fittingEntries document).lookup name = some v) : fits name v = true := by
  obtain ⟨front, back, hentries, -⟩ := List.lookup_eq_some_iff.mp h
  have hmem : (name, v) ∈ fittingEntries document := by
    rw [hentries]
    exact List.mem_append_right _ (List.mem_cons_self ..)
  exact (List.mem_filter.mp hmem).2

/-- All entries but one are numbers, and all but another one are whole. -/
theorem number_of_fits {name : String} (hname : name ≠ "skip_dirs") {v : Value}
    (h : fits name v = true) :
    (∃ i, v = .int i) ∨ ∃ x, v = .float x ∧ name = "enrichment_timeout" := by
  cases v with
  | int i => exact .inl ⟨i, rfl⟩
  | float x => exact .inr ⟨x, rfl, of_decide_eq_true h⟩
  | list items => exact absurd (of_decide_eq_true h) hname
  | _ => exact nomatch h

theorem list_of_fits {v : Value} (h : fits "skip_dirs" v = true) : ∃ items, v = .list items := by
  cases v with
  | list items => exact ⟨items, rfl⟩
  | _ => exact nomatch h

/-- A whole number with a whole default. -/
theorem exists_int_getD (document : Value) {name : String} (hname : name ≠ "skip_dirs")
    (hname' : name ≠ "enrichment_timeout") (d : Int) :
    ∃ i, ((fittingEntries document).lookup name).getD (.int d) = .int i := by
  cases hv : (fittingEntries document).lookup name with
  | none => exact ⟨d, rfl⟩
  | some v =>
      rcases number_of_fits hname (fits_of_lookup hv) with ⟨i, rfl⟩ | ⟨x, -, hx⟩
      · exact ⟨i, rfl⟩
      · exact absurd hx hname'

theorem workers_getD (document : Value) :
    ((fittingEntries document).lookup "max_workers").getD .null = .null
      ∨ ∃ i, ((fittingEntries document).lookup "max_workers").getD .null = .int i := by
  cases hv : (fittingEntries document).lookup "max_workers" with
  | none => exact .inl rfl
  | some v =>
      rcases number_of_fits (by decide) (fits_of_lookup hv) with ⟨i, rfl⟩ | ⟨x, -, hx⟩
      · exact .inr ⟨i, rfl⟩
      · exact absurd hx (by decide)

theorem timeout_getD (document : Value) :
    (∃ i, ((fittingEntries document).lookup "enrichment_timeout").getD usual.timeout = .int i)
      ∨ ∃ x, ((fittingEntries document).lookup "enrichment_timeout").getD usual.timeout
        = .float x := by
  cases hv : (fittingEntries document).lookup "enrichment_timeout" with
  | none => exact .inr ⟨60.0, rfl⟩
  | some v =>
      rcases number_of_fits (by decide) (fits_of_lookup hv) with ⟨i, rfl⟩ | ⟨x, rfl, -⟩
      · exact .inl ⟨i, rfl⟩
      · exact .inr ⟨x, rfl⟩

/-! ## Tests -/

theorem checkCycleLimit_int (i : Int) :
    checkCycleLimit (.int i) = .ok (if i < 0 then .null else .int i) := by
  show Except.ok (if (Number.whole i).isBelow (.whole 0) then Value.null else .int i) = _
  rw [Number.isBelow_whole]
  simp only [decide_eq_true_eq]

theorem checkPositive_of_number (name : String) {v : Value} {n : Number}
    (h : v.number? = some n) :
    checkPositive name v
      = if n.isAtMost (.whole 0) then .error (.outOfBounds (name ++ " must be positive"))
        else .ok v := by
  unfold checkPositive compared
  simp only [h]
  cases n.isAtMost (.whole 0) <;> rfl

theorem checkWorkers_of_number {v : Value} {n : Number} (h : v.number? = some n) :
    checkWorkers v
      = if n.isBelow (.whole 1) then .error (.outOfBounds "max_workers must be >= 1")
        else .ok v := by
  unfold checkWorkers
  split
  · exact nomatch h
  · simp only [compared, h]
    cases n.isBelow (.whole 1) <;> rfl

theorem isAtMost_whole (i : Int) : (Number.whole i).isAtMost (.whole 0) = decide (i ≤ 0) := by
  have hsame : (Number.whole i).isSame (.whole 0) = decide (i * 1 = 0 * 1) := rfl
  rw [Number.isAtMost, Number.isBelow_whole, hsame, ← Bool.decide_or]
  exact decide_eq_decide.mpr (by omega)

/-- What passes a test of a number is that number, and does not fail. -/
theorem of_passed {fails : Number → Bool} {n : Number} {e : SettingsError} {v w : Value}
    (h : (if fails n then .error e else .ok v) = Except.ok w) : fails n = false ∧ w = v := by
  by_cases hfails : fails n = true
  · rw [if_pos hfails] at h
    exact nomatch h
  · rw [if_neg hfails] at h
    exact ⟨Bool.eq_false_iff.mpr hfails, (Except.ok.inj h).symm⟩

theorem of_checkCycleLimit {i : Int} {w : Value} (h : checkCycleLimit (.int i) = .ok w) :
    w = .null ∨ ∃ i, w = .int i ∧ 0 ≤ i := by
  rw [← Except.ok.inj ((checkCycleLimit_int i).symm.trans h)]
  by_cases hneg : i < 0
  · exact .inl (if_pos hneg)
  · exact .inr ⟨i, if_neg hneg, Int.not_lt.mp hneg⟩

theorem of_checkPositive_int {name : String} {i : Int} {w : Value}
    (h : checkPositive name (.int i) = .ok w) : ∃ i, w = .int i ∧ 0 < i := by
  rw [checkPositive_of_number name (rfl : (Value.int i).number? = some (.whole i))] at h
  obtain ⟨hpositive, rfl⟩ := of_passed h
  rw [isAtMost_whole, decide_eq_false_iff_not] at hpositive
  exact ⟨i, rfl, Int.not_le.mp hpositive⟩

theorem of_checkPositive_float {name : String} {x : Float} {w : Value}
    (h : checkPositive name (.float x) = .ok w) :
    ∃ x, w = .float x ∧ ((Number.whole 0).isBelow (.real x) = true ∨ x.isNaN = true) := by
  rw [checkPositive_of_number name (rfl : (Value.float x).number? = some (.real x))] at h
  obtain ⟨hpositive, rfl⟩ := of_passed h
  refine ⟨x, rfl, ?_⟩
  rw [Number.isBelow_of_not_isAtMost hpositive]
  show (!x.isNaN) = true ∨ x.isNaN = true
  cases x.isNaN with
  | true => exact .inr rfl
  | false => exact .inl rfl

theorem of_checkWorkers_int {i : Int} {w : Value} (h : checkWorkers (.int i) = .ok w) :
    ∃ i, w = .int i ∧ 1 ≤ i := by
  rw [checkWorkers_of_number (rfl : (Value.int i).number? = some (.whole i))] at h
  obtain ⟨hone, rfl⟩ := of_passed h
  rw [Number.isBelow_whole, decide_eq_false_iff_not] at hone
  exact ⟨i, rfl, Int.not_lt.mp hone⟩

/-- An entry passes a test unless it is a number that fails. -/
theorem exists_passed_iff {test : Value → Except SettingsError Value} {fails : Number → Bool}
    {message : String} (document : Value) {d : Value} {name : String} (hname : name ≠ "skip_dirs")
    (hd : test d = .ok d)
    (htest : ∀ v n, v.number? = some n →
      test v = if fails n then .error (.outOfBounds message) else .ok v) :
    (∃ w, test (((fittingEntries document).lookup name).getD d) = .ok w)
      ↔ ¬ HasNumber (fittingEntries document) name fails := by
  cases hv : (fittingEntries document).lookup name with
  | none =>
      refine iff_of_true ⟨d, hd⟩ ?_
      rintro ⟨w, n, hw, -⟩
      exact nomatch hv.symm.trans hw
  | some v =>
      obtain ⟨n, hn⟩ : ∃ n, v.number? = some n := by
        rcases number_of_fits hname (fits_of_lookup hv) with ⟨i, rfl⟩ | ⟨x, rfl, -⟩
        · exact ⟨.whole i, rfl⟩
        · exact ⟨.real x, rfl⟩
      -- What fits is a number here, so the test comes down to its condition.
      rw [Option.getD_some, htest v n hn]
      by_cases hfails : fails n = true
      · rw [if_pos hfails]
        exact iff_of_false (fun ⟨_, h⟩ => nomatch h) fun h => h ⟨v, n, hv, hn, hfails⟩
      · rw [if_neg hfails]
        refine iff_of_true ⟨v, rfl⟩ ?_
        rintro ⟨w, m, hw, hm, hfails'⟩
        obtain rfl := Option.some.inj (hv.symm.trans hw)
        obtain rfl := Option.some.inj (hn.symm.trans hm)
        exact hfails hfails'

/-! ## Settings from a document -/

/-- The directories that entries name, or the usual ones. -/
def directoriesOf (entries : Entries) : Except SettingsError (List Value) :=
  match entries.lookup "skip_dirs" with
  | some v => membersOf v
  | none => pure usual.skippedDirectories

theorem exists_directoriesOf_iff {document : Value} :
    (∃ directories, directoriesOf (fittingEntries document) = .ok directories)
      ↔ ¬ ∃ items, (fittingEntries document).lookup "skip_dirs" = some (.list items)
        ∧ items.all (·.isMember) = false := by
  unfold directoriesOf
  cases hv : (fittingEntries document).lookup "skip_dirs" with
  | none =>
      refine iff_of_true ⟨_, rfl⟩ ?_
      rintro ⟨items, hitems, -⟩
      exact nomatch hitems
  | some v =>
      obtain ⟨items, rfl⟩ := list_of_fits (fits_of_lookup hv)
      have hset : membersOf (.list items) = if items.all (·.isMember) then
          .ok (Value.distinct items) else .error .notSet := rfl
      simp only [hset]
      by_cases hall : items.all (·.isMember) = true
      · rw [if_pos hall]
        refine iff_of_true ⟨_, rfl⟩ ?_
        rintro ⟨items', hitems, hall'⟩
        obtain rfl := Value.list.inj (Option.some.inj hitems)
        exact nomatch hall.symm.trans hall'
      · rw [if_neg hall]
        exact iff_of_false (fun ⟨_, h⟩ => nomatch h)
          fun h => h ⟨items, rfl, Bool.eq_false_iff.mpr hall⟩

/-- The settings that entries describe, before they are tested. -/
def untested (entries : Entries) (directories : List Value) (llm : ModelSettings) : Settings where
  cycleLimit := (entries.lookup "max_cycles").getD usual.cycleLimit
  timeout := (entries.lookup "enrichment_timeout").getD usual.timeout
  requestLimit := (entries.lookup "context_char_limit").getD usual.requestLimit
  workers := (entries.lookup "max_workers").getD usual.workers
  skippedDirectories := directories
  llm

theorem ofEntries_eq (entries : Entries) (llm : ModelSettings) :
    ofEntries entries llm = (directoriesOf entries).bind (make <| untested entries · llm) := by
  unfold ofEntries directoriesOf
  cases entries.lookup "skip_dirs" <;> rfl

/-- The entries about the analysis give settings unless one of them is out of bounds. -/
theorem exists_ofEntries_iff {document : Value} (llm : ModelSettings) :
    (∃ s, ofEntries (fittingEntries document) llm = .ok s) ↔ ¬ IsSpoiled document := by
  obtain ⟨i, hi⟩ := exists_int_getD document (by decide : "max_cycles" ≠ "skip_dirs") (by decide) 20
  -- Every limit on cycles passes, as a negative one stands for none.
  have hcycles := (congrArg checkCycleLimit hi).trans (checkCycleLimit_int i)
  have htimeout := exists_passed_iff document (by decide : "enrichment_timeout" ≠ "skip_dirs")
    (rfl : checkPositive "enrichment_timeout" usual.timeout = _)
    fun _ _ => checkPositive_of_number "enrichment_timeout"
  have hrequest := exists_passed_iff document (by decide : "context_char_limit" ≠ "skip_dirs")
    (rfl : checkPositive "context_char_limit" usual.requestLimit = _)
    fun _ _ => checkPositive_of_number "context_char_limit"
  have hworkers := exists_passed_iff document (by decide : "max_workers" ≠ "skip_dirs")
    (rfl : checkWorkers usual.workers = _) fun _ _ => checkWorkers_of_number
  rw [ofEntries_eq, IsSpoiled, not_or, not_or, not_or, ← htimeout, ← hrequest, ← hworkers,
    ← exists_directoriesOf_iff]
  constructor
  · rintro ⟨s, hs⟩
    obtain ⟨directories, hdirectories, hmake⟩ := exists_of_bind hs
    obtain ⟨-, ht, hr, hw, -, -⟩ := make_eq_ok_iff.mp hmake
    exact ⟨⟨_, ht⟩, ⟨_, hr⟩, ⟨_, hw⟩, ⟨_, hdirectories⟩⟩
  · rintro ⟨⟨timeout, ht⟩, ⟨requestLimit, hr⟩, ⟨workers, hw⟩, ⟨directories, hdirectories⟩⟩
    rw [hdirectories]
    exact ⟨⟨_, timeout, requestLimit, workers, directories, llm⟩,
      make_eq_ok_iff.mpr ⟨hcycles, ht, hr, hw, rfl, rfl⟩⟩

/-- The settings about the analysis that a document gives are in bounds. -/
theorem isBounded_of_ofEntries {document : Value} {llm : ModelSettings} {s : Settings}
    (h : ofEntries (fittingEntries document) llm = .ok s) (hllm : ∃ t, llm.service = .text t) :
    s.IsBounded ∧ s.llm = llm
      ∧ s.timeout = ((fittingEntries document).lookup "enrichment_timeout").getD usual.timeout := by
  rw [ofEntries_eq] at h
  obtain ⟨directories, -, hmake⟩ := exists_of_bind h
  obtain ⟨hcycles, htimeout, hrequest, hworkers, -, hsame⟩ := make_eq_ok_iff.mp hmake
  refine ⟨⟨?_, ?_, ?_, ?_, hsame ▸ hllm⟩, hsame, eq_of_checkPositive htimeout⟩
  · obtain ⟨i, hi⟩ := exists_int_getD document (by decide : "max_cycles" ≠ "skip_dirs")
      (by decide) 20
    exact of_checkCycleLimit ((congrArg checkCycleLimit hi).symm.trans hcycles)
  · rcases timeout_getD document with ⟨i, hi⟩ | ⟨x, hx⟩
    · exact .inl (of_checkPositive_int ((congrArg _ hi).symm.trans htimeout))
    · exact .inr (of_checkPositive_float ((congrArg _ hx).symm.trans htimeout))
  · obtain ⟨i, hi⟩ := exists_int_getD document (by decide : "context_char_limit" ≠ "skip_dirs")
      (by decide) usualRequestLimit
    exact of_checkPositive_int ((congrArg _ hi).symm.trans hrequest)
  · rcases workers_getD document with hnull | ⟨i, hi⟩
    · exact .inl ((eq_of_checkWorkers hworkers).trans hnull)
    · exact .inr (of_checkWorkers_int ((congrArg checkWorkers hi).symm.trans hworkers))

/-! ## Errors -/

/-- If something is wrong, it is not the name of the service. -/
def NotOfName {α : Type} (r : Except SettingsError α) : Prop :=
  r ≠ .error .notName

theorem NotOfName.bind {α β : Type} {r : Except SettingsError α} {f : α → Except SettingsError β}
    (h : NotOfName r) (hf : ∀ a, NotOfName (f a)) : NotOfName (r.bind f) := by
  cases r with
  | error e => exact fun heq => h (congrArg Except.error (Except.error.inj heq))
  | ok a => exact hf a

theorem notOfName_checkPositive (name : String) (v : Value) :
    NotOfName (checkPositive name v) := by
  cases hn : v.number? with
  | some n =>
      rw [checkPositive_of_number name hn]
      split <;> exact nofun
  | none =>
      unfold checkPositive compared
      simp only [hn]
      exact nofun

theorem notOfName_checkWorkers (v : Value) : NotOfName (checkWorkers v) := by
  cases hn : v.number? with
  | some n =>
      rw [checkWorkers_of_number hn]
      split <;> exact nofun
  | none =>
      unfold checkWorkers
      split
      · exact nofun
      · simp only [compared, hn]
        exact nofun

theorem notOfName_checkCycleLimit (v : Value) : NotOfName (checkCycleLimit v) := by
  unfold checkCycleLimit compared
  split
  · exact nofun
  · split <;> exact nofun

theorem notOfName_directoriesOf (entries : Entries) : NotOfName (directoriesOf entries) := by
  unfold directoriesOf membersOf
  split
  · split
    · split <;> exact nofun
    · exact nofun
  · exact nofun

/-- Entries about the analysis cannot be taken for a service without a name. -/
theorem notOfName_ofEntries (entries : Entries) (llm : ModelSettings) :
    NotOfName (ofEntries entries llm) := by
  -- One test after the other is made, and none of them is about the name.
  rw [ofEntries_eq]
  refine (notOfName_directoriesOf entries).bind fun directories => ?_
  refine (notOfName_checkCycleLimit _).bind fun cycleLimit => ?_
  refine (notOfName_checkPositive _ _).bind fun timeout => ?_
  refine (notOfName_checkPositive _ _).bind fun requestLimit => ?_
  exact (notOfName_checkWorkers _).bind fun workers => nofun

/-! ## Documents and files -/

theorem ofDocument_eq (document : Value) :
    ofDocument document
      = (ModelSettings.ofEntries (modelEntries document)).bind
          (ofEntries (fittingEntries document)) := rfl

/-- A document that does not name a service in a text is refused. -/
theorem ofDocument_of_not_namesService {document : Value} (h : ¬ NamesService document) :
    ofDocument document = .error .notName := by
  rw [ofDocument_eq]
  cases hllm : ModelSettings.ofEntries (modelEntries document) with
  | ok llm => exact absurd (ModelSettings.exists_ofEntries_iff.mp ⟨llm, hllm⟩) h
  | error e => exact congrArg _ (ModelSettings.eq_notName_of_ofEntries hllm)

/-- A document with an entry out of bounds is refused for another reason. -/
theorem ofDocument_of_isSpoiled {document : Value} (h : NamesService document)
    (hspoiled : IsSpoiled document) : ∃ e, ofDocument document = .error e ∧ e ≠ .notName := by
  obtain ⟨llm, hllm⟩ := ModelSettings.exists_ofEntries_iff.mpr h
  rw [ofDocument_eq, hllm]
  show ∃ e, ofEntries (fittingEntries document) llm = .error e ∧ e ≠ .notName
  cases hentries : ofEntries (fittingEntries document) llm with
  | ok s => exact absurd hspoiled ((exists_ofEntries_iff llm).mp ⟨s, hentries⟩)
  | error e => exact ⟨e, rfl, fun he => notOfName_ofEntries _ _ (he ▸ hentries)⟩

/-- Any other document describes settings, and they are as they should be if it is clean. -/
theorem ofDocument_of_not_isSpoiled {document : Value} (h : NamesService document)
    (hfine : ¬ IsSpoiled document) :
    ∃ s, ofDocument document = .ok s ∧ s.IsBounded ∧ (s.IsSound ↔ IsClean document) := by
  obtain ⟨llm, hllm⟩ := ModelSettings.exists_ofEntries_iff.mpr h
  obtain ⟨s, hs⟩ := (exists_ofEntries_iff llm).mpr hfine
  obtain ⟨hservice, hmodel, hendpoint, hkey⟩ := ModelSettings.texts_ofEntries hllm
  obtain ⟨hbounded, hsame, htimeout⟩ := isBounded_of_ofEntries hs hservice
  refine ⟨s, ?_, hbounded, ?_⟩
  · rw [ofDocument_eq, hllm]
    exact hs
  -- The time-out is that of the document, or the usual one, which is a number.
  have hnumber : (∀ x, s.timeout = .float x → x.isNaN = false)
      ↔ ∀ x, (fittingEntries document).lookup "enrichment_timeout" = some (.float x) →
        x.isNaN = false := by
    rw [htimeout]
    cases (fittingEntries document).lookup "enrichment_timeout" with
    | none =>
        refine iff_of_true (fun x hx => ?_) nofun
        obtain rfl := Value.float.inj hx
        rfl
    | some v =>
        exact forall_congr' fun x => imp_congr_left Option.some_inj.symm
  rw [← hsame] at hmodel hendpoint hkey
  constructor
  · intro hsound
    exact ⟨hmodel.mp hsound.model, hendpoint.mp hsound.endpoint, hkey.mp hsound.apiKey,
      hnumber.mp hsound.number⟩
  · intro hclean
    exact ⟨hbounded, hnumber.mpr hclean.number, hmodel.mpr hclean.model,
      hendpoint.mpr hclean.endpoint, hkey.mpr hclean.apiKey⟩

variable {read : String → Except Toml.Error Value}

/-- What the text of a file gives when it is a document that names a service. -/
theorem ofText_of_namesService {text : String} {document : Value}
    (hread : read text = .ok document) (h : NamesService document) :
    ∃ s, ofText read text = .ok s ∧ s.IsBounded
      ∧ (s.IsSound ↔ IsSpoiled document ∨ IsClean document) := by
  unfold ofText
  simp only [hread]
  by_cases hspoiled : IsSpoiled document
  · obtain ⟨e, he, hne⟩ := ofDocument_of_isSpoiled h hspoiled
    refine ⟨usual, ?_, isSound_usual.toIsBounded, iff_of_true isSound_usual (.inl hspoiled)⟩
    rw [he]
    cases e with
    | notName => exact absurd rfl hne
    | _ => rfl
  · obtain ⟨s, hs, hbounded, hsound⟩ := ofDocument_of_not_isSpoiled h hspoiled
    refine ⟨s, ?_, hbounded, hsound.trans (or_iff_right hspoiled).symm⟩
    rw [hs]

/-- A text that is no document stands for the usual settings. -/
theorem ofText_of_malformed {text : String} (h : read text = .error .malformed) :
    ofText read text = .ok usual := by
  unfold ofText
  simp only [h]

/-- Loading a text fails in no other case. -/
theorem of_ofText {text : String} {s : Settings} (h : ofText read text = .ok s) :
    read text = .error .malformed
      ∨ ∃ document, read text = .ok document ∧ NamesService document := by
  cases hread : read text with
  | error e =>
      unfold ofText at h
      simp only [hread] at h
      cases e with
      | malformed => exact .inl rfl
      | _ => exact nomatch h
  | ok document =>
      refine .inr ⟨document, rfl, Classical.byContradiction fun hnames => ?_⟩
      unfold ofText at h
      simp only [hread, ofDocument_of_not_namesService hnames] at h
      exact nomatch h

theorem isBounded_of_ofText {text : String} {s : Settings} (h : ofText read text = .ok s) :
    s.IsBounded := by
  rcases of_ofText h with hmalformed | ⟨document, hread, hnames⟩
  · obtain rfl := Except.ok.inj ((ofText_of_malformed hmalformed).symm.trans h)
    exact isSound_usual.toIsBounded
  · obtain ⟨s', hs', hbounded, -⟩ := ofText_of_namesService hread hnames
    obtain rfl := Except.ok.inj (hs'.symm.trans h)
    exact hbounded

theorem load_eq_ok_iff {data : List UInt8} {s : Settings} :
    load read data = .ok s ↔ ∃ text, Utf8.decode data = .ok text ∧ ofText read text = .ok s := by
  unfold load
  cases Utf8.decode data with
  | ok text => simp
  | error e => simp

/-- **LOADING**: whatever a file holds and however documents are read, its settings are loaded
    exactly if it is a text, and the text is no document or one that names a service in a text.
    They are in bounds then.  And they are as they should be exactly if the document, if there is
    one, cannot be used for its bounds, or has texts for the language model and no time-out that is
    no number. -/
theorem load_sound_iff (read : String → Except Toml.Error Value) (data : List UInt8) :
    ((∃ s, load read data = .ok s) ↔ ∃ text, Utf8.decode data = .ok text
      ∧ (read text = .error .malformed
        ∨ ∃ document, read text = .ok document ∧ NamesService document))
    ∧ (∀ s, load read data = .ok s → s.IsBounded)
    ∧ ((∃ s, load read data = .ok s ∧ s.IsSound) ↔ ∃ text, Utf8.decode data = .ok text
      ∧ (read text = .error .malformed
        ∨ ∃ document, read text = .ok document ∧ NamesService document
          ∧ (IsSpoiled document ∨ IsClean document))) := by
  -- What a text gives is one of two things, the usual settings or those of a document.
  have hgives : ∀ {text s}, ofText read text = .ok s →
      s.IsBounded ∧ (s.IsSound ↔ read text = .error .malformed
        ∨ ∃ document, read text = .ok document ∧ NamesService document
          ∧ (IsSpoiled document ∨ IsClean document)) := by
    intro text s h
    rcases of_ofText h with hmalformed | ⟨document, hread, hnames⟩
    · obtain rfl := Except.ok.inj ((ofText_of_malformed hmalformed).symm.trans h)
      exact ⟨isSound_usual.toIsBounded, iff_of_true isSound_usual (.inl hmalformed)⟩
    · obtain ⟨s', hs', hbounded, hsound⟩ := ofText_of_namesService hread hnames
      obtain rfl := Except.ok.inj (hs'.symm.trans h)
      refine ⟨hbounded, hsound.trans ⟨fun hd => .inr ⟨document, hread, hnames, hd⟩, ?_⟩⟩
      rintro (hmalformed | ⟨document', hread', -, hd⟩)
      · exact nomatch hread.symm.trans hmalformed
      · obtain rfl := Except.ok.inj (hread.symm.trans hread')
        exact hd
  refine ⟨?_, ?_, ?_⟩
  · constructor
    · rintro ⟨s, hs⟩
      obtain ⟨text, htext, h⟩ := load_eq_ok_iff.mp hs
      exact ⟨text, htext, of_ofText h⟩
    · rintro ⟨text, htext, hmalformed | ⟨document, hread, hnames⟩⟩
      · exact ⟨usual, load_eq_ok_iff.mpr ⟨text, htext, ofText_of_malformed hmalformed⟩⟩
      · obtain ⟨s, hs, -⟩ := ofText_of_namesService hread hnames
        exact ⟨s, load_eq_ok_iff.mpr ⟨text, htext, hs⟩⟩
  · intro s hs
    obtain ⟨text, -, h⟩ := load_eq_ok_iff.mp hs
    exact (hgives h).1
  · constructor
    · rintro ⟨s, hs, hsound⟩
      obtain ⟨text, htext, h⟩ := load_eq_ok_iff.mp hs
      exact ⟨text, htext, (hgives h).2.mp hsound⟩
    · rintro ⟨text, htext, hmalformed | ⟨document, hread, hnames, hd⟩⟩
      · exact ⟨usual, load_eq_ok_iff.mpr ⟨text, htext, ofText_of_malformed hmalformed⟩,
          isSound_usual⟩
      · obtain ⟨s, hs, -, hsound⟩ := ofText_of_namesService hread hnames
        exact ⟨s, load_eq_ok_iff.mpr ⟨text, htext, hs⟩, hsound.mpr hd⟩

/-! ## Files that are not loaded as they should be -/

/-- The text of a file with one entry. -/
def oneEntry (table entry : String) : String :=
  "[" ++ table ++ "]\n" ++ entry ++ "\n"

theorem load_oneEntry {table entry : String}
    (hform : Text.isWellFormed (oneEntry table entry) = true) :
    load read (Utf8.encode (oneEntry table entry)) = ofText read (oneEntry table entry) := by
  rw [load, Utf8.decode_encode hform]

/-- With the usual reader, a file in another encoding and a service without a name are not loaded; a
    model without a name and a time-out that is no number are. -/
theorem not_load_sound :
    (¬ ∃ s, load Toml.read [0xFF] = .ok s)
    ∧ (¬ ∃ s, load Toml.read (Utf8.encode (oneEntry "llm" "provider = 3")) = .ok s)
    ∧ (∃ s, load Toml.read (Utf8.encode (oneEntry "llm" "model = 5")) = .ok s
      ∧ s.llm.model = .int 5 ∧ ¬ s.IsSound)
    ∧ ∃ s x, load Toml.read (Utf8.encode (oneEntry "pipeline" "enrichment_timeout = nan")) = .ok s
      ∧ s.timeout = .float x ∧ x.isNaN = true ∧ ¬ s.IsSound := by
  refine ⟨(fun ⟨s, hs⟩ => nomatch hs), (fun ⟨s, hs⟩ => ?_), ?_, ?_⟩
  · rw [load_oneEntry (by decide +kernel)] at hs
    have hfails : ofText Toml.read (oneEntry "llm" "provider = 3") = .error .notName := by rfl
    exact nomatch hfails.symm.trans hs
  · rw [load_oneEntry (by decide +kernel)]
    refine ⟨_, rfl, rfl, fun hsound => ?_⟩
    obtain ⟨t, ht⟩ := hsound.model
    exact nomatch ht
  · rw [load_oneEntry (by decide +kernel)]
    refine ⟨_, _, rfl, rfl, rfl, fun hsound => ?_⟩
    exact nomatch hsound.number _ rfl

end Settings

end SourceAtlas
