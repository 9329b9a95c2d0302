import SourceAtlas.Proofs.Text.Case
import SourceAtlas.Proofs.Text.Lines
import SourceAtlas.Proofs.Text.Utf8
import SourceAtlas.Proofs.Value.Order
import SourceAtlas.Settings.File

/-! # Settings, saved and loaded again

    Settings that have passed their tests pass them again, and defaults that have
    been filled in stay (`make_make` for the settings and for the choice of a
    model).  So a document with settings describes them (`ofDocument_document?`):
    all of them but the limits of the language model, for which it has no
    entries.  If the document comes back from its text, the settings come back
    from the file (`load_saved`), and they are the ones that were saved exactly
    if those limits are the usual ones (`load_save_iff`).

    The text has to be well formed, as a file cannot hold halves of surrogate
    pairs.  The characters that stand for halves are excluded with them. -/

namespace SourceAtlas

/-! ## Choices -/

/-- A number of seconds, or another amount, in a form that a document keeps. -/
inductive Amount where
  | whole (i : Int)
  | real (x : Float)

/-- The amount as a value. -/
def Amount.value : Amount → Value
  | whole i => .int i
  | real x => .float x

/-- A number that may be missing. -/
def Value.intOrNull : Option Int → Value
  | some i => .int i
  | none => .null

/-- What a user can choose about the language model. Empty texts stand for defaults. -/
structure ModelChoice where
  service : String
  model : String
  apiKey : String
  endpoint : String
  maxTokens : Int
  temperature : Amount

/-- What a user can choose. -/
structure Choices where
  cycleLimit : Option Int
  timeout : Amount
  requestLimit : Int
  workers : Option Int
  skippedDirectories : List String
  nodup : skippedDirectories.Nodup := by decide
  llm : ModelChoice

/-- The settings of a choice, with the defaults filled in. -/
def ModelChoice.settings (c : ModelChoice) : Except SettingsError ModelSettings :=
  ModelSettings.make (.text c.service) (.text c.model) (.text c.apiKey) (.text c.endpoint)
    (.int c.maxTokens) c.temperature.value

/-- The settings of choices, if these pass the tests. -/
def Choices.settings (c : Choices) : Except SettingsError Settings := do
  let llm ← c.llm.settings
  Settings.make {
    cycleLimit := .intOrNull c.cycleLimit
    timeout := c.timeout.value
    requestLimit := .int c.requestLimit
    workers := .intOrNull c.workers
    skippedDirectories := c.skippedDirectories.map .text
    llm }

/-- The settings are the same, with the directories in any order. -/
structure Settings.Agrees (s s' : Settings) : Prop where
  cycleLimit : s.cycleLimit = s'.cycleLimit
  timeout : s.timeout = s'.timeout
  requestLimit : s.requestLimit = s'.requestLimit
  workers : s.workers = s'.workers
  skippedDirectories : s.skippedDirectories.Perm s'.skippedDirectories
  llm : s.llm = s'.llm

/-- The choice of a language model with the usual limits. -/
def ModelSettings.unlimited (m : ModelSettings) : ModelSettings :=
  { m with maxTokens := usualMaxTokens, temperature := usualTemperature }

/-! ## Results -/

section

variable {ε α β : Type} {r : Except ε α}

theorem exists_of_bind {f : α → Except ε β} {b : β} (h : r.bind f = .ok b) :
    ∃ a, r = .ok a ∧ f a = .ok b := by
  cases r with
  | error e => exact nomatch h
  | ok a => exact ⟨a, rfl, h⟩

theorem exists_of_map {f : α → β} {b : β} (h : r.map f = .ok b) : ∃ a, r = .ok a ∧ f a = b := by
  cases r with
  | error e => exact nomatch h
  | ok a => exact ⟨a, rfl, Except.ok.inj h⟩

theorem eq_ok_of_mapError {δ : Type} {f : ε → δ} {a : α} (h : r.mapError f = .ok a) :
    r = .ok a := by
  cases r with
  | error e => exact nomatch h
  | ok b => rw [Except.ok.inj h]

theorem eq_ok_of_toOption {a : α} (h : r.toOption = some a) : r = .ok a := by
  cases r with
  | error e => exact nomatch h
  | ok b => rw [Option.some.inj h]

end

/-! ## Tests that have been passed, and defaults that have been filled in -/

theorem Value.orElse_orElse (v d : Value) : (v.orElse d).orElse d = v.orElse d := by
  unfold orElse
  split
  · split <;> rfl
  · rfl

namespace ModelSettings

theorem serviceName_serviceName {v : Value} {name : String} (h : serviceName v = .ok name) :
    serviceName (.text name) = .ok name := by
  have hword : serviceName (.text Service.ollama.word) = .ok Service.ollama.word := by decide
  unfold serviceName at h
  split at h
  · next s =>
      split at h
      · exact Except.ok.inj h ▸ hword
      · next hs =>
          obtain rfl := Except.ok.inj h
          rw [serviceName, if_neg, String.toList_ofList, Text.lower_lower]
          intro hempty
          have hlower : Text.lower s.toList = [] :=
            String.ofList_eq_empty_iff.mp (String.isEmpty_iff.mp hempty)
          have hnil : s.toList = [] := Text.lower_eq_nil_iff.mp hlower
          exact hs (String.isEmpty_iff.mpr (String.toList_eq_nil_iff.mp hnil))
  · split at h
    · exact Except.ok.inj h ▸ hword
    · exact nomatch h

theorem make_make {service model apiKey endpoint maxTokens temperature : Value}
    {m : ModelSettings} (h : make service model apiKey endpoint maxTokens temperature = .ok m)
    (maxTokens' temperature' : Value) :
    make m.service m.model m.apiKey m.endpoint maxTokens' temperature'
      = .ok { m with maxTokens := maxTokens', temperature := temperature' } := by
  obtain ⟨name, hname, rfl⟩ := exists_of_map h
  rw [make, serviceName_serviceName hname]
  simp only [Except.map, Value.orElse_orElse]

theorem apiKey_make {service model apiKey endpoint maxTokens temperature : Value}
    {m : ModelSettings} (h : make service model apiKey endpoint maxTokens temperature = .ok m) :
    m.apiKey = apiKey := by
  obtain ⟨name, -, rfl⟩ := exists_of_map h
  rfl

/-- The entries of a choice of a language model describe it, apart from its limits. -/
theorem ofEntries_document {m : ModelSettings} (hkey : ∃ key, m.apiKey = .text key)
    (hmade : make m.service m.model m.apiKey m.endpoint usualMaxTokens usualTemperature
      = .ok m.unlimited) :
    ofEntries ([("provider", m.service), ("model", m.model), ("endpoint", m.endpoint)]
        ++ if m.apiKey.isVoid then [] else [("api_key", m.apiKey)])
      = .ok m.unlimited := by
  obtain ⟨key, hkey⟩ := hkey
  rw [hkey] at hmade ⊢
  by_cases hvoid : (Value.text key).isVoid
  · obtain rfl : key = "" := String.isEmpty_iff.mp hvoid
    exact hmade
  · rw [if_neg hvoid]
    exact hmade

end ModelSettings

namespace Settings

theorem eq_null_or_of_checkCycleLimit {v w : Value} (h : checkCycleLimit v = .ok w) :
    w = .null ∨ w = v := by
  unfold checkCycleLimit at h
  split at h
  · exact .inl (Except.ok.inj h).symm
  · obtain ⟨negative, -, rfl⟩ := exists_of_map h
    cases negative with
    | true => exact .inl rfl
    | false => exact .inr rfl

theorem eq_of_checkPositive {name : String} {v w : Value} (h : checkPositive name v = .ok w) :
    w = v := by
  unfold checkPositive at h
  split at h
  · exact nomatch h
  · exact nomatch h
  · exact (Except.ok.inj h).symm

theorem eq_of_checkWorkers {v w : Value} (h : checkWorkers v = .ok w) : w = v := by
  unfold checkWorkers at h
  split at h
  · exact (Except.ok.inj h).symm
  · split at h
    · exact nomatch h
    · exact nomatch h
    · exact (Except.ok.inj h).symm

/-- Settings that pass the tests. -/
theorem make_eq_ok_iff {given s : Settings} :
    make given = .ok s ↔
      checkCycleLimit given.cycleLimit = .ok s.cycleLimit
      ∧ checkPositive "enrichment_timeout" given.timeout = .ok s.timeout
      ∧ checkPositive "context_char_limit" given.requestLimit = .ok s.requestLimit
      ∧ checkWorkers given.workers = .ok s.workers
      ∧ s.skippedDirectories = given.skippedDirectories ∧ s.llm = given.llm := by
  obtain ⟨cycleLimit, timeout, requestLimit, workers, directories, llm⟩ := s
  constructor
  · intro h
    obtain ⟨cycleLimit', hcycles, h⟩ := exists_of_bind h
    obtain ⟨timeout', htimeout, h⟩ := exists_of_bind h
    obtain ⟨requestLimit', hrequest, h⟩ := exists_of_bind h
    obtain ⟨workers', hworkers, h⟩ := exists_of_bind h
    cases Except.ok.inj h
    exact ⟨hcycles, htimeout, hrequest, hworkers, rfl, rfl⟩
  · rintro ⟨hcycles, htimeout, hrequest, hworkers, hdirectories, hllm⟩
    cases hdirectories
    cases hllm
    rw [make, hcycles, htimeout, hrequest, hworkers]
    rfl

theorem make_make {given s : Settings} (h : make given = .ok s) : make s = .ok s := by
  obtain ⟨hcycles, htimeout, hrequest, hworkers, -, -⟩ := make_eq_ok_iff.mp h
  refine make_eq_ok_iff.mpr ⟨?_, ?_, ?_, ?_, rfl, rfl⟩
  · rcases eq_null_or_of_checkCycleLimit hcycles with hnull | hsame
    · rw [hnull]
      rfl
    · rwa [← hsame] at hcycles
  · rwa [← eq_of_checkPositive htimeout] at htimeout
  · rwa [← eq_of_checkPositive hrequest] at hrequest
  · rwa [← eq_of_checkWorkers hworkers] at hworkers

/-! ## Settings that come from choices -/

/-- The settings are of the kinds that a document keeps, pass the tests, and have all defaults
    filled in. -/
structure IsChosen (s : Settings) : Prop where
  cycleLimit : s.cycleLimit = .null ∨ ∃ i, s.cycleLimit = .int i
  timeout : ∃ a : Amount, s.timeout = a.value
  requestLimit : ∃ i, s.requestLimit = .int i
  workers : s.workers = .null ∨ ∃ i, s.workers = .int i
  skippedDirectories : ∃ names : List String, names.Nodup ∧ s.skippedDirectories = names.map .text
  passed : s.make = .ok s
  apiKey : ∃ key, s.llm.apiKey = .text key
  filled : ModelSettings.make s.llm.service s.llm.model s.llm.apiKey s.llm.endpoint
    = .ok s.llm.unlimited

theorem isChosen_of_settings {c : Choices} {s : Settings} (h : c.settings = .ok s) :
    s.IsChosen := by
  unfold Choices.settings at h
  obtain ⟨llm, hllm, hmake⟩ := exists_of_bind (r := c.llm.settings) h
  obtain ⟨hcycles, htimeout, hrequest, hworkers, hdirectories, hsame⟩ := make_eq_ok_iff.mp hmake
  have hkind : ∀ i : Option Int,
      Value.intOrNull i = .null ∨ ∃ n, Value.intOrNull i = .int n := by
    rintro (- | n)
    · exact .inl rfl
    · exact .inr ⟨n, rfl⟩
  refine ⟨?_, ⟨c.timeout, eq_of_checkPositive htimeout⟩,
    ⟨c.requestLimit, eq_of_checkPositive hrequest⟩, ?_,
    ⟨c.skippedDirectories, c.nodup, hdirectories⟩, make_make hmake, ?_, ?_⟩
  · rcases eq_null_or_of_checkCycleLimit hcycles with hnull | hsame
    · exact .inl hnull
    · rw [hsame]
      exact hkind c.cycleLimit
  · rw [eq_of_checkWorkers hworkers]
    exact hkind c.workers
  · rw [hsame]
    exact ⟨c.llm.apiKey, ModelSettings.apiKey_make hllm⟩
  · rw [hsame]
    exact ModelSettings.make_make hllm _ _

/-! ## Documents -/

/-- The directories in order. -/
theorem exists_of_sortedDirectories? {s : Settings} (h : s.IsChosen) {directories : List Value}
    (hsort : s.sortedDirectories? = some directories) :
    directories.Perm s.skippedDirectories ∧ membersOf (.list directories) = .ok directories := by
  obtain ⟨names, hnodup, hnames⟩ := h.skippedDirectories
  have hperm := Value.perm_of_sort? hsort
  refine ⟨hperm, ?_⟩
  rw [hnames] at hperm
  obtain ⟨names', hperm', rfl⟩ := Value.exists_names_of_perm hperm
  rw [membersOf, Value.items?]
  simp only
  rw [if_pos (Value.areMembers_texts names'), Value.distinct_of_texts (hperm'.nodup_iff.mpr hnodup)]

/-- The limit of cycles as it stands in a document. -/
theorem checkCycleLimit_written {s : Settings} (h : s.IsChosen) {limit : Value}
    (hlimit : limit = match s.cycleLimit with
      | .null => .int (-1)
      | v => v) :
    fits "max_cycles" limit = true ∧ checkCycleLimit limit = .ok s.cycleLimit := by
  obtain ⟨hcycles, -⟩ := make_eq_ok_iff.mp h.passed
  rcases h.cycleLimit with hnull | ⟨i, hi⟩
  · rw [hnull] at hlimit ⊢
    rw [hlimit]
    exact ⟨rfl, by rfl⟩
  · rw [hi] at hlimit hcycles ⊢
    rw [hlimit]
    exact ⟨rfl, hcycles⟩

/-- The entries about the analysis describe the settings. -/
theorem ofEntries_document {s : Settings} (h : s.IsChosen) {directories : List Value}
    (hmembers : membersOf (.list directories) = .ok directories) {limit : Value}
    (hlimit : limit = match s.cycleLimit with
      | .null => .int (-1)
      | v => v) {workers : Entries}
    (hworkers : workers = match s.workers with
      | .null => []
      | v => [("max_workers", v)]) (llm : ModelSettings) :
    ofEntries (([("max_cycles", limit), ("enrichment_timeout", s.timeout),
        ("context_char_limit", s.requestLimit), ("skip_dirs", .list directories)]
        ++ workers).filter fun (name, v) => fits name v) llm
      = .ok { s with skippedDirectories := directories, llm } := by
  obtain ⟨hfits, hcycles⟩ := checkCycleLimit_written h hlimit
  obtain ⟨-, htimeout, hrequest, hpassed, -, -⟩ := make_eq_ok_iff.mp h.passed
  have hworkersFit : (∀ e ∈ workers, fits e.1 e.2 = true)
      ∧ (workers.lookup "max_workers").getD .null = s.workers := by
    rcases h.workers with hnull | ⟨i, hi⟩
    · rw [hworkers, hnull]
      exact ⟨nofun, rfl⟩
    · rw [hworkers, hi]
      exact ⟨fun e he => List.mem_singleton.mp he ▸ rfl, rfl⟩
  have htimeoutFits : fits "enrichment_timeout" s.timeout = true := by
    obtain ⟨a | a, ha⟩ := h.timeout <;> rw [ha] <;> rfl
  have hrequestFits : fits "context_char_limit" s.requestLimit = true := by
    obtain ⟨i, hi⟩ := h.requestLimit
    rw [hi]
    rfl
  rw [List.filter_eq_self.mpr]
  · -- The entries are found under their names.
    show (membersOf (.list directories)).bind (fun found => make
        { cycleLimit := limit, timeout := s.timeout, requestLimit := s.requestLimit
          workers := (workers.lookup "max_workers").getD .null, skippedDirectories := found, llm })
      = _
    rw [hmembers, hworkersFit.2]
    exact make_eq_ok_iff.mpr ⟨hcycles, htimeout, hrequest, hpassed, rfl, rfl⟩
  · refine List.forall_mem_append.mpr ⟨?_, hworkersFit.1⟩
    simp only [List.forall_mem_cons]
    exact ⟨hfits, htimeoutFits, hrequestFits, rfl, nofun⟩

theorem ofDocument_tables (pipeline llm : Entries) :
    ofDocument (.record [("pipeline", .record pipeline), ("llm", .record llm)])
      = (ModelSettings.ofEntries llm).bind
          (ofEntries (pipeline.filter fun (name, v) => fits name v)) := rfl

/-- A document with settings describes them, apart from the limits of the language model. -/
theorem ofDocument_document? {s : Settings} (h : s.IsChosen) {document : Entries}
    (hdocument : s.document? = some document) :
    ∃ directories : List Value, directories.Perm s.skippedDirectories
      ∧ ofDocument (.record document)
        = .ok { s with skippedDirectories := directories, llm := s.llm.unlimited } := by
  unfold document? at hdocument
  obtain ⟨directories, hsort, hdocument⟩ := Option.bind_eq_some_iff.mp hdocument
  obtain ⟨hperm, hmembers⟩ := exists_of_sortedDirectories? h hsort
  obtain rfl := Option.some.inj hdocument
  have hllm := ModelSettings.ofEntries_document h.apiKey h.filled
  have hentries := ofEntries_document h hmembers rfl rfl s.llm.unlimited
  refine ⟨directories, hperm, ?_⟩
  rw [ofDocument_tables, hllm]
  exact hentries

/-! ## Files -/

/-- Settings that are saved and loaded again. -/
theorem load_saved {read : String → Except Toml.Error Value} {s : Settings} (h : s.IsChosen)
    {text : String} (hsave : s.save = .ok text) (hform : Text.isWellFormed text = true)
    (hread : ∀ document, s.document? = some document → read text = .ok (.record document)) :
    ∃ directories : List Value, directories.Perm s.skippedDirectories
      ∧ load read (Utf8.encode text)
        = .ok { s with skippedDirectories := directories, llm := s.llm.unlimited } := by
  unfold save at hsave
  split at hsave
  · exact nomatch hsave
  · next document hdocument =>
      obtain ⟨directories, hperm, hreloaded⟩ := ofDocument_document? h hdocument
      refine ⟨directories, hperm, ?_⟩
      rw [load, Utf8.decode_encode hform]
      show ofText read text = _
      rw [ofText, hread document hdocument]
      simp only [hreloaded]

/-- **SAVED AND LOADED AGAIN**: settings that are made from choices and saved come back from the
    file in every field but the limits of the language model, which are the usual ones then. So the
    settings that come back are those that were saved exactly if these had the usual limits. -/
theorem load_save_iff {read : String → Except Toml.Error Value} (c : Choices) {s : Settings}
    {text : String} (hs : c.settings = .ok s) (hsave : s.save = .ok text)
    (hform : Text.isWellFormed text = true)
    (hread : ∀ document, s.document? = some document → read text = .ok (.record document)) :
    ∃ s', load read (Utf8.encode text) = .ok s' ∧ s'.Agrees { s with llm := s.llm.unlimited }
      ∧ (s'.Agrees s ↔ s.llm.maxTokens = ModelSettings.usualMaxTokens
          ∧ s.llm.temperature = ModelSettings.usualTemperature) := by
  obtain ⟨directories, hperm, hload⟩ := load_saved (isChosen_of_settings hs) hsave hform hread
  refine ⟨_, hload, ⟨rfl, rfl, rfl, rfl, hperm, rfl⟩, fun hagrees => ?_, ?_⟩
  · rw [← hagrees.llm]
    exact ⟨rfl, rfl⟩
  · rintro ⟨htokens, htemperature⟩
    refine ⟨rfl, rfl, rfl, rfl, hperm, ?_⟩
    show s.llm.unlimited = s.llm
    rw [ModelSettings.unlimited, ← htokens, ← htemperature]

/-! ## Limits that are lost -/

/-- Choices with limits of their own for the language model. -/
def limited : Choices where
  cycleLimit := none
  timeout := .whole 60
  requestLimit := 20000
  workers := some 3
  skippedDirectories := ["b", "a"]
  llm :=
    { service := "Groq", model := "m", apiKey := "k", endpoint := "e", maxTokens := 100
      temperature := .real 0.5 }

/-- The settings of these choices. -/
def limitedSettings : Settings where
  cycleLimit := .null
  timeout := .int 60
  requestLimit := .int 20000
  workers := .int 3
  skippedDirectories := [.text "b", .text "a"]
  llm :=
    { service := .text "groq", model := .text "m", apiKey := .text "k", endpoint := .text "e"
      maxTokens := .int 100, temperature := .float 0.5 }

/-- The tables of the document with these settings. -/
def limitedTables : Toml.Tables := [
  ("pipeline", [("max_cycles", .int (-1)), ("enrichment_timeout", .int 60),
    ("context_char_limit", .int 20000), ("skip_dirs", .list [.text "a", .text "b"]),
    ("max_workers", .int 3)]),
  ("llm", [("provider", .text "groq"), ("model", .text "m"), ("endpoint", .text "e"),
    ("api_key", .text "k")])]

/-- The document. -/
def limitedDocument : Entries :=
  limitedTables.map fun (name, entries) => (name, .record entries)

/-- Its lines. -/
def limitedLines : List (List Char) :=
  ["[pipeline]", "max_cycles = -1", "enrichment_timeout = 60", "context_char_limit = 20000",
    "skip_dirs = [ \"a\", \"b\",]", "max_workers = 3", "", "[llm]", "provider = \"groq\"",
    "model = \"m\"", "endpoint = \"e\"", "api_key = \"k\""].map String.toList

theorem settings_limited : limited.settings = .ok limitedSettings := by
  rfl

theorem document?_limited : limitedSettings.document? = some limitedDocument := by
  rfl

theorem write_eq_ok {entries : Entries} {top : Toml.TableText} {cs : List Char}
    (htop : Toml.writeTable (Value.record entries).depth "" entries = .ok top)
    (hlevels : Toml.writeLevels (Toml.writeTable (Value.record entries).depth)
      ((Value.record entries).depth + 1) top.text.toList top.tables = .ok cs) :
    Toml.write entries = .ok (.ofList cs) := by
  rw [Toml.write, htop]
  show (Toml.writeLevels _ _ top.text.toList top.tables).bind _ = _
  rw [hlevels]
  rfl

theorem write_limited : Toml.write limitedDocument = .ok (Text.textOf limitedLines) := by
  have htop : Toml.writeTable (Value.record limitedDocument).depth "" limitedDocument
      = .ok { tables := limitedTables } := by rfl
  exact write_eq_ok htop (eq_ok_of_toOption (by decide +kernel))

set_option maxRecDepth 100000 in
theorem read_limited {document : Entries} (h : limitedSettings.document? = some document) :
    Toml.read (Text.textOf limitedLines) = .ok (.record document) := by
  obtain rfl := Option.some.inj (document?_limited.symm.trans h)
  have hlines : Toml.lines (Toml.plainBreaks (limitedLines.flatMap (· ++ ['\n'])))
      = .ok (limitedLines ++ [[]]) :=
    eq_ok_of_toOption (by decide +kernel)
  rw [Toml.read, Text.textOf, String.toList_ofList, hlines]
  rfl

theorem isWellFormed_limited : Text.isWellFormed (Text.textOf limitedLines) = true := by
  rw [Text.isWellFormed, Text.textOf, String.toList_ofList]
  decide +kernel

theorem save_limited : limitedSettings.save = .ok (Text.textOf limitedLines) := by
  rw [save, document?_limited]
  simp only [write_limited]
  rfl

/-- These settings come back from their file, but for the limits. -/
theorem load_save_limited :
    limited.settings = .ok limitedSettings
    ∧ limitedSettings.save = .ok (Text.textOf limitedLines)
    ∧ Text.isWellFormed (Text.textOf limitedLines) = true
    ∧ (∀ document, limitedSettings.document? = some document →
        Toml.read (Text.textOf limitedLines) = .ok (.record document))
    ∧ ∃ s', load Toml.read (Utf8.encode (Text.textOf limitedLines)) = .ok s'
      ∧ s'.Agrees { limitedSettings with llm := limitedSettings.llm.unlimited }
      ∧ (s'.Agrees limitedSettings ↔
          limitedSettings.llm.maxTokens = ModelSettings.usualMaxTokens
          ∧ limitedSettings.llm.temperature = ModelSettings.usualTemperature) :=
  ⟨settings_limited, save_limited, isWellFormed_limited, fun _ => read_limited,
    load_save_iff limited settings_limited save_limited isWellFormed_limited fun _ => read_limited⟩

/-- What comes back from their file are not the settings that were saved. -/
theorem not_agrees_limited :
    limited.settings = .ok limitedSettings
    ∧ limitedSettings.save = .ok (Text.textOf limitedLines)
    ∧ (∀ document, limitedSettings.document? = some document →
        Toml.read (Text.textOf limitedLines) = .ok (.record document))
    ∧ ∃ s', load Toml.read (Utf8.encode (Text.textOf limitedLines)) = .ok s'
      ∧ s'.llm.maxTokens = .int 4096 ∧ limitedSettings.llm.maxTokens = .int 100
      ∧ ¬ s'.Agrees limitedSettings := by
  obtain ⟨directories, -, hload⟩ := load_saved (isChosen_of_settings settings_limited)
    save_limited isWellFormed_limited fun _ => read_limited
  refine ⟨settings_limited, save_limited, fun _ => read_limited, _, hload, rfl, rfl,
    fun hagrees => ?_⟩
  have htokens : Value.int 4096 = .int 100 := congrArg ModelSettings.maxTokens hagrees.llm
  exact absurd (Value.int.inj htokens) (by decide)

end Settings

end SourceAtlas
