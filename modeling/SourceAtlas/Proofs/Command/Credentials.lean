import SourceAtlas.Proofs.Command.Connections
import SourceAtlas.Proofs.Command.Workspace
import SourceAtlas.Proofs.Settings.Loading
import SourceAtlas.Proofs.Value.Entries
import SourceAtlas.Provider.Message

/-! # Credentials stay with their service

    A file with settings names a service and says how its language model is asked:
    with which credentials, at which address, within which limits.  The command
    line can turn from this service (`TurnsFrom`), and then nothing of that must
    reach another one.  This is stated for two files at once: if they show the
    same to all services (`publicPart`), an analysis makes the same client with
    either, so it posts the same messages (`clients_eq_of_turnsFrom`).

    Both files are followed side by side.  Their documents pass the same tests, so
    the settings differ in the language model alone (`orUsual_cases`).  A service
    chosen on the command line starts from its own defaults, and an unknown one is
    replaced, so in either case the client is the one that the command line makes
    on its own (`ownModel`, `map_make_chosenModel`).  The rest of an analysis only
    counts for whether it connects at all (`map_clientFor_connectionWith?`). -/

namespace SourceAtlas

open Command

namespace Settings

/-! ## What a document shows to all services -/

/-- What a document shows to all services: the entries about the analysis, and the name of the
    service that it is for. All else is between the user and that service. -/
def publicPart (document : Value) : Entries × Option Value :=
  (fittingEntries document, (modelEntries document).lookup "provider")

/-- The name of the service that a document is for. -/
def namedService (document : Value) : Except SettingsError String :=
  ModelSettings.serviceName ((publicPart document).2.getD .null)

/-- Whatever a document says about a language model, it shows the same, as long as the service has
    the same name. -/
theorem publicPart_insert {tables llm : Entries} (h : tables.lookup "llm" = some (.record llm))
    {name : String} (hname : name ≠ "provider") (v : Value) :
    publicPart (.record (tables.insert "llm" (.record (llm.insert name v))))
      = publicPart (.record tables) := by
  have hpipeline : fittingEntries (.record (tables.insert "llm" (.record (llm.insert name v))))
      = fittingEntries (.record tables) := by
    unfold fittingEntries tableOf Value.get?
    simp only [Entries.lookup_insert, if_neg (by decide : "pipeline" ≠ "llm")]
  have hllm : modelEntries (.record (tables.insert "llm" (.record (llm.insert name v))))
      = llm.insert name v := by
    unfold modelEntries tableOf Value.get?
    simp only [Entries.lookup_insert, if_true]
  have hllm' : modelEntries (.record tables) = llm := by
    unfold modelEntries tableOf Value.get?
    simp only [h]
  rw [publicPart, publicPart, hpipeline, hllm, hllm', Entries.lookup_insert, if_neg hname.symm]

/-- The settings of a file, from those that its document describes; the usual ones if the document
    cannot be used. -/
def orUsual (described : Except SettingsError Settings) : Except LoadError Settings :=
  match described with
  | .ok s => .ok s
  | .error .notName => .error .notName
  | .error _ => .ok usual

theorem ofText_of_read {read : String → Except Toml.Error Value} {text : String}
    {document : Value} (h : read text = .ok document) :
    ofText read text = orUsual (ofDocument document) := by
  unfold ofText
  simp only [h]
  rfl

/-- The tests of the settings about the analysis are the same with another language model. -/
theorem make_withModel (s : Settings) (llm : ModelSettings) :
    make { s with llm } = (make s).map ({ · with llm }) := by
  unfold make
  simp only
  cases checkCycleLimit s.cycleLimit with
  | error e => rfl
  | ok cycleLimit =>
      cases checkPositive "enrichment_timeout" s.timeout with
      | error e => rfl
      | ok timeout =>
          cases checkPositive "context_char_limit" s.requestLimit with
          | error e => rfl
          | ok requestLimit => cases checkWorkers s.workers <;> rfl

theorem ofEntries_withModel (entries : Entries) (llm llm' : ModelSettings) :
    ofEntries entries llm' = (ofEntries entries llm).map ({ · with llm := llm' }) := by
  rw [ofEntries_eq, ofEntries_eq]
  cases directoriesOf entries with
  | error e => rfl
  | ok directories => exact make_withModel (untested entries directories llm) llm'

theorem llm_of_ofEntries {entries : Entries} {llm : ModelSettings} {s : Settings}
    (h : ofEntries entries llm = .ok s) : s.llm = llm := by
  have hsame := ofEntries_withModel entries llm llm
  rw [h] at hsame
  exact congrArg Settings.llm (Except.ok.inj hsame)

/-- Of the entries about the language model, only the name of its service can be in the way. -/
theorem modelOfEntries_eq (entries : Entries) :
    ∃ llm : String → ModelSettings, (∀ name, (llm name).service = .text name)
      ∧ ModelSettings.ofEntries entries
        = (ModelSettings.serviceName ((entries.lookup "provider").getD .null)).map llm :=
  ⟨_, fun _ => rfl, rfl⟩

/-- Documents that show the same give the same settings, or settings that differ in nothing but the
    language model, which is of the same service. -/
theorem orUsual_cases {document document' : Value}
    (h : publicPart document = publicPart document') :
    orUsual (ofDocument document) = orUsual (ofDocument document')
    ∨ ∃ name s llm, namedService document = .ok name
      ∧ orUsual (ofDocument document) = .ok s ∧ s.llm.service = .text name
      ∧ orUsual (ofDocument document') = .ok { s with llm } ∧ llm.service = .text name := by
  obtain ⟨llm, hservice, hllm⟩ := modelOfEntries_eq (modelEntries document)
  obtain ⟨llm', hservice', hllm'⟩ := modelOfEntries_eq (modelEntries document')
  have hfitting : fittingEntries document = fittingEntries document' := congrArg Prod.fst h
  have hprovider : (modelEntries document).lookup "provider"
      = (modelEntries document').lookup "provider" := congrArg Prod.snd h
  have hnamed : namedService document
      = ModelSettings.serviceName (((modelEntries document).lookup "provider").getD .null) := rfl
  rw [ofDocument_eq, ofDocument_eq, hllm, hllm', ← hprovider, ← hnamed, ← hfitting]
  cases namedService document with
  | error e => exact .inl rfl
  | ok name =>
      -- The same tests are made, so both documents pass them or neither does.
      have hother := ofEntries_withModel (fittingEntries document) (llm name) (llm' name)
      cases hs : ofEntries (fittingEntries document) (llm name) with
      | error e =>
          rw [hs] at hother
          exact .inl (congrArg orUsual (hs.trans hother.symm))
      | ok s =>
          rw [hs] at hother
          exact .inr ⟨name, s, llm' name, rfl, congrArg orUsual hs,
            (congrArg ModelSettings.service (llm_of_ofEntries hs)).trans (hservice name),
            congrArg orUsual hother, hservice' name⟩

end Settings

/-! ## Files with settings -/

/-- The document in a file, if the reader finds one. -/
def Content.document? (read : String → Except Toml.Error Value) : Content → Option Value
  | .text s => (read s).toOption
  | .bytes data => (Utf8.decode data).toOption.bind fun s => (read s).toOption

namespace Session

/-- The session in which a file has another content. -/
def withContent (s : Session) (p : Place) (c : Content) : Session :=
  { s with workspace := s.workspace.withContent p c }

theorem settingsAt_of_read {s : Session} {path : String} {c : Content} {document : Value}
    (h : s.workspace.read path = .ok (some c))
    (hdocument : c.document? s.readDocument = some document) :
    s.settingsAt path
      = (Settings.orUsual (Settings.ofDocument document)).mapError .settings := by
  unfold settingsAt
  rw [h]
  cases c with
  | text text =>
      have hread := eq_ok_of_toOption hdocument
      exact congrArg (Except.mapError Crash.settings) (Settings.ofText_of_read hread)
  | bytes data =>
      obtain ⟨text, hdecode, hread⟩ := Option.bind_eq_some_iff.mp hdocument
      have hload : Settings.load s.readDocument data = Settings.ofText s.readDocument text := by
        rw [Settings.load, eq_ok_of_toOption hdecode]
      exact congrArg (Except.mapError Crash.settings)
        (hload.trans (Settings.ofText_of_read (eq_ok_of_toOption hread)))

end Session

/-! ## Turning from a service -/

/-- A command line has nothing to do with a service: it chooses another one, in small or in capital
    letters, or there is no such service and the command line leaves it at that. -/
inductive Command.AnalyzeOptions.TurnsFrom (o : AnalyzeOptions) (name : String) : Prop where
  | another {choice : String} (given : given o.service = some choice)
      (other : String.ofList (Text.lower choice.toList) ≠ name)
  | unknown (unknown : Service.ofWord? name = none) (service : given o.service = none)
      (model : given o.model = none) (apiKey : given o.apiKey = none)
      (endpoint : given o.endpoint = none)

/-- The choice of a language model that a command line makes on its own. -/
def Command.AnalyzeOptions.ownModel (o : AnalyzeOptions) : Except SettingsError ModelSettings :=
  let named (text : Option String) (default : Value) : Value :=
    ((given text).map .text).getD default
  ModelSettings.make (named o.service .null) (named o.model .null) (named o.apiKey (.text ""))
    (named o.endpoint .null)

theorem chosenModel_of_none {o : AnalyzeOptions} (hservice : given o.service = none)
    (hmodel : given o.model = none) (hkey : given o.apiKey = none)
    (hendpoint : given o.endpoint = none) (m : ModelSettings) : chosenModel m o = .ok m := by
  unfold chosenModel
  rw [hservice, hmodel, hkey, hendpoint]
  rfl

/-- A default may be filled in before the choice is made. -/
theorem orElse_getD_orElse (text : Option String) (v : Value) :
    (((given text).map Value.text).getD (Value.null.orElse v)).orElse v
      = (((given text).map Value.text).getD .null).orElse v := by
  cases given text with
  | none => exact Value.orElse_orElse .null v
  | some t => rfl

theorem ModelSettings.serviceName_given {text : Option String} {s : String}
    (h : given text = some s) :
    serviceName (.text s) = .ok (String.ofList (Text.lower s.toList)) := by
  have hs : ¬ s.isEmpty = true := by
    simpa using (Option.filter_eq_some_iff.mp h).2
  rw [serviceName, if_neg hs]

/-- Another service starts from its own defaults. -/
theorem chosenModel_of_another {o : AnalyzeOptions} {choice name : String}
    (hgiven : given o.service = some choice)
    (hother : String.ofList (Text.lower choice.toList) ≠ name) {m : ModelSettings}
    (hm : m.service = .text name) : chosenModel m o = o.ownModel := by
  have hne : (m.service.text? == some (String.ofList (Text.lower choice.toList))) = false := by
    rw [hm]
    exact beq_false_of_ne fun h => hother (Option.some.inj h).symm
  have hname := ModelSettings.serviceName_given hgiven
  have hname' := ModelSettings.serviceName_serviceName hname
  have hchosen : chosenModel m o = (ModelSettings.make (.text choice)).bind fun base =>
      ModelSettings.make base.service (((given o.model).map .text).getD base.model)
        (((given o.apiKey).map .text).getD base.apiKey)
        (((given o.endpoint).map .text).getD base.endpoint) base.maxTokens base.temperature := by
    unfold chosenModel
    rw [hgiven]
    simp only [hne]
    rfl
  rw [hchosen, Command.AnalyzeOptions.ownModel]
  simp only [hgiven, ModelSettings.make, Option.map_some, Option.getD_some, hname, Except.map,
    Except.bind, hname', orElse_getD_orElse]

/-- Where a command line turns from a service, the client is that of the command line alone. -/
theorem map_make_chosenModel {o : AnalyzeOptions} {name : String} (h : o.TurnsFrom name)
    {m : ModelSettings} (hm : m.service = .text name) (timeout : Value) :
    (chosenModel m o).map (Client.make · timeout) = o.ownModel.map (Client.make · timeout) := by
  cases h with
  | another hgiven hother => rw [chosenModel_of_another hgiven hother hm]
  | unknown hunknown hservice hmodel hkey hendpoint =>
      have hnone : m.service? = none := by
        rw [ModelSettings.service?, hm]
        exact hunknown
      have hown : o.ownModel = .ok .usual := by
        simp only [Command.AnalyzeOptions.ownModel, hservice, hmodel, hkey, hendpoint]
        rfl
      rw [chosenModel_of_none hservice hmodel hkey hendpoint, hown]
      show Except.ok (Client.make m timeout) = _
      rw [Client.make, hnone]
      rfl

/-! ## Clients -/

/-- The client for a connection. -/
def clientFor (connection : ModelSettings × Value) : Client :=
  Client.make connection.1 connection.2

/-- The clients that a command has made. -/
def CommandResult.clients (r : CommandResult) : List Client :=
  r.connections.map clientFor

/-- The settings of the language model count for the client only by what the command line makes of
    them. -/
theorem map_clientFor_connectionWith? (w : Workspace) (o : AnalyzeOptions) (p : Place)
    (s : Settings) :
    (connectionWith? w o p s).map clientFor
      = if o.timeout.any (· ≤ 0.0) || !o.enrich || (sourcesAt w s p).isEmpty then none
        else ((chosenModel s.llm o).map
          (Client.make · ((o.timeout.map .float).getD s.timeout))).toOption := by
  rw [connectionWith?_eq]
  split
  · rfl
  · cases chosenModel s.llm o <;> rfl

theorem connectionWith?_withContent (w : Workspace) (p : Place) (c : Content) (o : AnalyzeOptions)
    (q : Place) (s : Settings) :
    connectionWith? (w.withContent p c) o q s = connectionWith? w o q s := by
  rw [connectionWith?_eq, connectionWith?_eq, isEmpty_sourcesAt_withContent]

/-- A command line for an analysis makes the client for its connection. -/
theorem clients_runArguments (session : Session) {args : List String} {o : AnalyzeOptions}
    (hargs : session.readArguments args = .ok (.analyze o)) :
    (runArguments session args).clients = ((session.connection? o).map clientFor).toList := by
  have hanalysis : session.analysisOf? args = some o := by
    rw [Session.analysisOf?, hargs]
  rw [CommandResult.clients, connections_runArguments, hanalysis, Option.bind_some,
    Option.toList_map]

/-- Another content in a file leaves the reading of the command line as it is. -/
theorem clients_withContent (session : Session) (p : Place) (c : Content) {args : List String}
    {o : AnalyzeOptions} (hargs : session.readArguments args = .ok (.analyze o)) :
    (runArguments (session.withContent p c) args).clients
      = (((session.withContent p c).connection? o).map clientFor).toList :=
  clients_runArguments (session.withContent p c) hargs

/-- A file counts for the connection only by the settings in it. -/
theorem map_clientFor_connection?_withContent (session : Session) (p : Place) (c : Content)
    (o : AnalyzeOptions) :
    ((session.withContent p c).connection? o).map clientFor
      = (session.workspace.find o.path).toOption.join.bind fun q =>
          ((session.withContent p c).settingsAt (session.configPath o.config)).toOption.bind
            fun s => (connectionWith? session.workspace o q s).map clientFor := by
  have hfind : (session.withContent p c).workspace.find o.path = session.workspace.find o.path :=
    Workspace.find_withContent ..
  have hpath : (session.withContent p c).configPath o.config = session.configPath o.config := rfl
  rw [Session.connection?, hfind, hpath, Option.map_bind]
  refine Option.bind_congr fun q _ => ?_
  rw [Function.comp_apply, Option.map_bind]
  refine Option.bind_congr fun s _ => ?_
  exact congrArg (Option.map clientFor) (connectionWith?_withContent session.workspace p c o q s)

section

variable {session : Session} {p : Place} {c c' : Content} {document document' : Value}
  {o : AnalyzeOptions}

/-- The settings in two files that show the same lead to the same client. -/
theorem clientFor_settingsAt_congr
    (hdocument : c.document? session.readDocument = some document)
    (hdocument' : c'.document? session.readDocument = some document')
    (hpublic : Settings.publicPart document = Settings.publicPart document')
    (hturns : ∀ name, Settings.namedService document = .ok name → o.TurnsFrom name)
    (path : String) (w : Workspace) (q : Place) :
    ((session.withContent p c).settingsAt path).toOption.bind
        (fun s => (connectionWith? w o q s).map clientFor)
      = ((session.withContent p c').settingsAt path).toOption.bind
          fun s => (connectionWith? w o q s).map clientFor := by
  rcases session.workspace.read_withContent_cases p path with hnew | hold
  · have hread : ∀ c, (session.withContent p c).workspace.read path = .ok (some c) := hnew
    rw [Session.settingsAt_of_read (hread c) hdocument,
      Session.settingsAt_of_read (hread c') hdocument']
    rcases Settings.orUsual_cases hpublic with
      hsame | ⟨name, s, llm, hname, hs, hservice, hs', hservice'⟩
    · rw [hsame]
    · rw [hs, hs']
      show (connectionWith? w o q s).map clientFor
        = (connectionWith? w o q { s with llm }).map clientFor
      rw [map_clientFor_connectionWith?, map_clientFor_connectionWith?,
        map_make_chosenModel (hturns name hname) hservice,
        map_make_chosenModel (hturns name hname) hservice']
      rfl
  · have hsettings : ∀ c, (session.withContent p c).settingsAt path = session.settingsAt path := by
      intro c
      unfold Session.settingsAt Session.withContent
      rw [hold c]
    rw [hsettings, hsettings]

/-- **NO CREDENTIALS TO ANOTHER SERVICE**: two files with settings show the same, and differ
    arbitrarily in what they say about the language model of their service. If the command line
    turns from that service, an analysis makes the same client with both files, and the client
    posts the same message for every prompt, however files and command lines are read. It makes
    just one if it is to be enriched and nothing is in the way, and none otherwise. -/
theorem clients_eq_of_turnsFrom (hdocument : c.document? session.readDocument = some document)
    (hdocument' : c'.document? session.readDocument = some document')
    (hpublic : Settings.publicPart document = Settings.publicPart document') {args : List String}
    (hargs : session.readArguments args = .ok (.analyze o))
    (hturns : ∀ name, Settings.namedService document = .ok name → o.TurnsFrom name) :
    (runArguments (session.withContent p c) args).clients
      = (runArguments (session.withContent p c') args).clients
    ∧ (∀ prompt, (runArguments (session.withContent p c) args).clients.map (·.message prompt)
      = (runArguments (session.withContent p c') args).clients.map (·.message prompt))
    ∧ ((session.withContent p c).Enriches o →
      ∃ client, (runArguments (session.withContent p c) args).clients = [client])
    ∧ (¬ (session.withContent p c).Enriches o →
      (runArguments (session.withContent p c) args).clients = []) := by
  have hsame : (runArguments (session.withContent p c) args).clients
      = (runArguments (session.withContent p c') args).clients := by
    rw [clients_withContent _ _ _ hargs, clients_withContent _ _ _ hargs,
      map_clientFor_connection?_withContent, map_clientFor_connection?_withContent]
    exact congrArg Option.toList (Option.bind_congr fun q _ =>
      clientFor_settingsAt_congr hdocument hdocument' hpublic hturns _ session.workspace q)
  refine ⟨hsame, fun prompt => congrArg (List.map (·.message prompt)) hsame, ?_, ?_⟩
  · intro henriches
    obtain ⟨connection, hconnection⟩ := exists_connection?_iff.mpr henriches
    rw [clients_withContent _ _ _ hargs, hconnection]
    exact ⟨clientFor connection, rfl⟩
  · intro hnot
    have hnone : (session.withContent p c).connection? o = none := by
      rw [Option.eq_none_iff_forall_ne_some]
      exact fun connection h => hnot (exists_connection?_iff.mp ⟨connection, h⟩)
    rw [clients_withContent _ _ _ hargs, hnone]
    rfl

end

/-! ## An analysis with another service -/

/-- A file with settings for one service, with credentials and a limit for it. -/
def groqConfig (key : String) (maxTokens : String) : String :=
  "[llm]\nprovider = \"Groq\"\napi_key = \"" ++ key ++ "\"\nmax_tokens = " ++ maxTokens ++ "\n"

/-- The document in this file. -/
def groqDocument (key : String) (maxTokens : Int) : Value :=
  .record [("llm", .record [("provider", .text "Groq"), ("api_key", .text key),
    ("max_tokens", .int maxTokens)])]

/-- A source file next to a file with settings. -/
def twoFiles : Session where
  workspace := { files := [(["a.py"], .text "x = 1"), (["c.toml"], .text "")] }
  usualConfig := "usual.toml"
  columns := 80
  connect _ _ := none

/-- An analysis that turns to another service, with credentials of its own. -/
def otherService : List String :=
  ["analyze", "a.py", "--enrich", "--provider", "OpenAI", "--api-key", "mine", "--config", "c.toml"]

/-- The options of this analysis. -/
def otherServiceOptions : AnalyzeOptions :=
  { path := "a.py", enrich := true, service := "OpenAI", apiKey := "mine", config := "c.toml" }

/-- The client of this analysis, which has nothing of the file with settings. -/
def otherServiceClient : Client where
  service := .openai
  settings := { ModelSettings.ofService .openai with apiKey := .text "mine" }
  timeout := .float 60.0

set_option maxRecDepth 100000 in
/-- Two files with the credentials for one service, and an analysis with another service. -/
theorem clients_eq_of_turnsFrom_groq :
    (Content.text (groqConfig "secret" "7")).document? Toml.read = some (groqDocument "secret" 7)
    ∧ (Content.text (groqConfig "other" "8")).document? Toml.read = some (groqDocument "other" 8)
    ∧ Settings.publicPart (groqDocument "secret" 7) = Settings.publicPart (groqDocument "other" 8)
    ∧ Command.ofArguments otherService = .ok (.analyze otherServiceOptions)
    ∧ (∀ name, Settings.namedService (groqDocument "secret" 7) = .ok name →
        otherServiceOptions.TurnsFrom name)
    ∧ (twoFiles.withContent ["c.toml"] (.text (groqConfig "secret" "7"))).Enriches
        otherServiceOptions
    ∧ (runArguments (twoFiles.withContent ["c.toml"] (.text (groqConfig "secret" "7")))
        otherService).clients = [otherServiceClient]
    ∧ (runArguments (twoFiles.withContent ["c.toml"] (.text (groqConfig "secret" "7")))
        otherService).clients
      = (runArguments (twoFiles.withContent ["c.toml"] (.text (groqConfig "other" "8")))
        otherService).clients := by
  have hdocument : (Content.text (groqConfig "secret" "7")).document? Toml.read
      = some (groqDocument "secret" 7) := by rfl
  have hdocument' : (Content.text (groqConfig "other" "8")).document? Toml.read
      = some (groqDocument "other" 8) := by rfl
  have hpublic : Settings.publicPart (groqDocument "secret" 7)
      = Settings.publicPart (groqDocument "other" 8) := by rfl
  have hargs : Command.ofArguments otherService = .ok (.analyze otherServiceOptions) := by rfl
  have hturns : ∀ name, Settings.namedService (groqDocument "secret" 7) = .ok name →
      otherServiceOptions.TurnsFrom name := by
    intro name hname
    obtain rfl : "groq" = name := Except.ok.inj hname
    have hgiven : given otherServiceOptions.service = some "OpenAI" := rfl
    exact .another hgiven (by decide)
  have henriches : (twoFiles.withContent ["c.toml"]
      (.text (groqConfig "secret" "7"))).Enriches otherServiceOptions :=
    exists_connection?_iff.mp ⟨(otherServiceClient.settings, otherServiceClient.timeout), rfl⟩
  refine ⟨hdocument, hdocument', hpublic, hargs, hturns, henriches, ?_,
    (clients_eq_of_turnsFrom hdocument hdocument' hpublic hargs hturns).1⟩
  rw [clients_withContent _ _ _ hargs]
  rfl

end SourceAtlas
