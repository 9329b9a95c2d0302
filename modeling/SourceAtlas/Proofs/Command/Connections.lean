import SourceAtlas.Command.Run
import SourceAtlas.Proofs.Settings.Loading

/-! # What an analysis connects to

    Of the plans that commands make, only that of an analysis of files asks for a
    provider (`isLocal_plan`), and it does so before anything else
    (`connections_sourcesPlan`).  So what a command line connects to does not
    depend on how the analysis goes on or what can be shown
    (`connections_runArguments`): it is decided by the files that are there, the
    settings and the choices on the command line (`Session.connection?`).  There
    is a connection exactly if the analysis is to be enriched and nothing is in the
    way (`exists_connection?_iff`). -/

namespace SourceAtlas

open Command

/-! ## Plans without a provider -/

namespace Plan

/-- A plan makes no provider. -/
def IsLocal (p : Plan) : Prop :=
  ∀ m timeout, Action.connect m timeout ∉ p.actions

theorem IsLocal.connections_run {p : Plan} (h : p.IsLocal) (columns : Nat) :
    (p.run columns).connections = [] := by
  obtain ⟨actions, ending⟩ := p
  unfold run
  induction actions with
  | nil => cases ending <;> rfl
  | cons a rest ih =>
      have hrest := ih fun m timeout hmem => h m timeout (List.mem_cons_of_mem _ hmem)
      rcases a with ⟨m, timeout⟩ | b | ⟨place, text⟩
      · exact absurd (List.mem_cons_self ..) (h m timeout)
      · simp only [runActions]
        split
        · rfl
        · split
          · exact hrest
          · rfl
      · exact hrest

theorem IsLocal.after {p : Plan} (h : p.IsLocal) {actions : List Action}
    (hactions : ∀ m timeout, .connect m timeout ∉ actions) : (p.after actions).IsLocal :=
  fun m timeout hmem => (List.mem_append.mp hmem).elim (hactions m timeout) (h m timeout)

theorem after_append (first second : List Action) (p : Plan) :
    p.after (first ++ second) = (p.after second).after first :=
  congrArg (Plan.mk · p.ending) (List.append_assoc ..)

theorem isLocal_crashed (c : Crash) : (crashed c).IsLocal := nofun

theorem isLocal_usage : usage.IsLocal := nofun

theorem isLocal_message (text : String) (status : Nat) : (message text status).IsLocal :=
  fun _ _ hmem => nomatch List.mem_singleton.mp hmem

end Plan

theorem isLocal_shown (blocks : List Terminal.Block) :
    Plan.IsLocal { actions := blocks.map .show } := by
  intro m timeout hmem
  obtain ⟨b, -, hb⟩ := List.mem_map.mp hmem
  exact nomatch hb

/-- Nothing is connected to once there is a result. -/
theorem isLocal_resultPlan (session : Session) (o : AnalyzeOptions) (a : Analysis) :
    (resultPlan session o a).IsLocal := by
  unfold resultPlan
  simp only
  split
  · exact isLocal_shown _
  · split
    · exact Plan.isLocal_crashed _
    · refine (isLocal_shown _).after fun m timeout hmem => ?_
      split at hmem <;> simp at hmem

theorem isLocal_languagesPlan (name : Option String) : (languagesPlan name).IsLocal := by
  unfold languagesPlan
  split
  · exact isLocal_shown [_]
  · split
    · exact Plan.isLocal_message _ 1
    · exact isLocal_shown [_]

theorem isLocal_initPlan (session : Session) (o : InitOptions) : (initPlan session o).IsLocal := by
  have hwrites : ∀ (place : Place) (text : String) (m : ModelSettings) (timeout : Value),
      Action.connect m timeout ∉ [Action.write place text] :=
    fun _ _ _ _ hmem => nomatch List.mem_singleton.mp hmem
  unfold initPlan
  simp only
  split
  · exact Plan.isLocal_crashed _
  · split
    · exact Plan.isLocal_message _ 1
    · split
      · split
        · exact (Plan.isLocal_crashed _).after (hwrites _ _)
        · exact (Plan.isLocal_message _ 0).after (hwrites _ _)
      · exact Plan.isLocal_message _ 1

/-- Only an analysis makes a provider. -/
theorem isLocal_plan (session : Session) {c : Command} (h : ∀ o, c ≠ .analyze o) :
    (c.plan session).IsLocal := by
  cases c with
  | analyze o => exact absurd rfl (h o)
  | languages name => exact isLocal_languagesPlan name
  | initConfig o => exact isLocal_initPlan session o
  | version => exact isLocal_shown [_]
  | help => exact isLocal_shown []

/-! ## The connection of an analysis -/

/-- What the analysis of the files at a place connects to with some settings, on top of which the
    command line makes its choices. -/
def connectionWith? (w : Workspace) (o : AnalyzeOptions) (p : Place) (s : Settings) :
    Option (ModelSettings × Value) :=
  if o.timeout.any (· ≤ 0.0) then none
  else (chosenSettings s o).toOption.bind fun s =>
    if o.enrich && !(sourcesAt w s p).isEmpty then some (s.llm, s.timeout) else none

/-- What an analysis connects to. -/
def Session.connection? (session : Session) (o : AnalyzeOptions) :
    Option (ModelSettings × Value) :=
  (session.workspace.find o.path).toOption.join.bind fun p =>
    (session.settingsAt (session.configPath o.config)).toOption.bind
      (connectionWith? session.workspace o p)

theorem chosenSettings_eq (s : Settings) (o : AnalyzeOptions) :
    chosenSettings s o = (chosenModel s.llm o).map fun llm =>
      { s with
        cycleLimit := match o.cycleLimit with
          | none => s.cycleLimit
          | some n => if n < 0 then .null else .int n
        timeout := (o.timeout.map .float).getD s.timeout
        llm } := by
  unfold chosenSettings
  cases chosenModel s.llm o <;> rfl

/-- The choices on the command line do not change which files are analysed. -/
theorem connectionWith?_eq (w : Workspace) (o : AnalyzeOptions) (p : Place) (s : Settings) :
    connectionWith? w o p s
      = if o.timeout.any (· ≤ 0.0) || !o.enrich || (sourcesAt w s p).isEmpty then none
        else (chosenModel s.llm o).toOption.map
          (·, (o.timeout.map .float).getD s.timeout) := by
  unfold connectionWith?
  rw [chosenSettings_eq]
  cases o.timeout.any (· ≤ 0.0) with
  | true => rfl
  | false =>
      cases chosenModel s.llm o with
      | error e => simp [Except.map, Except.toOption]
      | ok llm =>
          show (if o.enrich && !(sourcesAt w s p).isEmpty
            then some (llm, (o.timeout.map .float).getD s.timeout) else none) = _
          cases o.enrich <;> cases (sourcesAt w s p).isEmpty <;> rfl

/-- An analysis of files connects at its very start, if at all. -/
theorem connections_sourcesPlan (session : Session) (o : AnalyzeOptions) (s : Settings)
    (sources : List (String × Content)) (columns : Nat) :
    ((sourcesPlan session o s sources).run columns).connections
      = if o.enrich then [(s.llm, s.timeout)] else [] := by
  -- All that comes after the connection is a plan of its own, which makes no provider.
  obtain ⟨p, hlocal, hplan⟩ : ∃ p : Plan, p.IsLocal ∧ sourcesPlan session o s sources
      = p.after (if o.enrich then [.connect s.llm s.timeout] else []) := by
    unfold sourcesPlan
    refine ⟨.after _ _, Plan.IsLocal.after ?_ fun m timeout hmem => ?_, Plan.after_append ..⟩
    · split
      · exact Plan.isLocal_crashed _
      · exact isLocal_resultPlan session o _
    · split at hmem <;> simp at hmem
  rw [hplan]
  cases o.enrich with
  | false => exact hlocal.connections_run columns
  | true => exact congrArg ((s.llm, s.timeout) :: ·) (hlocal.connections_run columns)

/-- An analysis connects to what its session and its options say, whatever comes afterwards. -/
theorem connections_analyzePlan (session : Session) (o : AnalyzeOptions) (columns : Nat) :
    ((analyzePlan session o).run columns).connections = (session.connection? o).toList := by
  unfold analyzePlan Session.connection?
  cases session.workspace.find o.path with
  | error f => exact Plan.isLocal_usage.connections_run columns
  | ok found =>
      cases found with
      | none => exact Plan.isLocal_usage.connections_run columns
      | some p =>
          simp only
          cases session.settingsAt (session.configPath o.config) with
          | error c => exact (Plan.isLocal_crashed c).connections_run columns
          | ok s =>
              show _ = (connectionWith? session.workspace o p s).toList
              unfold connectionWith?
              simp only
              by_cases htimeout : o.timeout.any (· ≤ 0.0) = true
              · rw [if_pos htimeout, if_pos htimeout]
                exact Plan.isLocal_usage.connections_run columns
              · rw [if_neg htimeout, if_neg htimeout]
                cases chosenSettings s o with
                | error e => exact (Plan.isLocal_crashed _).connections_run columns
                | ok s =>
                    show _ = (if o.enrich && !(sourcesAt session.workspace s p).isEmpty
                      then some (s.llm, s.timeout) else none).toList
                    simp only
                    cases sourcesAt session.workspace s p with
                    | nil =>
                        rw [List.isEmpty_nil, Bool.not_true, Bool.and_false]
                        exact (Plan.isLocal_message _ 1).connections_run columns
                    | cons source rest =>
                        rw [connections_sourcesPlan]
                        cases o.enrich <;> rfl

/-! ## Analyses that connect -/

/-- An analysis gets to its provider: it is to be enriched, the time to wait is not too short, the
    settings can be loaded, and there are files to analyse. -/
structure Session.Enriches (session : Session) (o : AnalyzeOptions) : Prop where
  enrich : o.enrich = true
  timeout : o.timeout.any (· ≤ 0.0) = false
  sources : ∃ p s, session.workspace.find o.path = .ok (some p)
    ∧ session.settingsAt (session.configPath o.config) = .ok s
    ∧ sourcesAt session.workspace s p ≠ []

theorem ModelSettings.exists_make (t : String)
    (model apiKey endpoint maxTokens temperature : Value) :
    ∃ m, make (.text t) model apiKey endpoint maxTokens temperature = .ok m
      ∧ ∃ t', m.service = .text t' := by
  obtain ⟨name, hname⟩ := exists_serviceName_iff.mpr (.inr ⟨t, rfl⟩)
  rw [make, hname]
  exact ⟨_, rfl, name, rfl⟩

/-- Whatever stands on the command line, a choice is made if the service has a name. -/
theorem exists_chosenModel {m : ModelSettings} (hm : ∃ t, m.service = .text t)
    (o : AnalyzeOptions) : ∃ chosen, chosenModel m o = .ok chosen := by
  have hmake : ∀ {base : ModelSettings}, (∃ t, base.service = .text t) →
      ∀ model apiKey endpoint maxTokens temperature, ∃ chosen,
        ModelSettings.make base.service model apiKey endpoint maxTokens temperature
          = .ok chosen := by
    rintro base ⟨t, ht⟩ model apiKey endpoint maxTokens temperature
    obtain ⟨chosen, hchosen, -⟩ :=
      ModelSettings.exists_make t model apiKey endpoint maxTokens temperature
    exact ⟨chosen, ht ▸ hchosen⟩
  unfold chosenModel
  simp only
  split
  · exact ⟨m, rfl⟩
  · split
    · exact hmake hm ..
    · next name _ =>
        split
        · exact hmake hm ..
        · obtain ⟨base, hbase, hservice⟩ := ModelSettings.exists_make name .null (.text "") .null
            ModelSettings.usualMaxTokens ModelSettings.usualTemperature
          rw [hbase]
          exact hmake hservice ..

theorem Session.isBounded_of_settingsAt {session : Session} {path : String} {s : Settings}
    (h : session.settingsAt path = .ok s) : s.IsBounded := by
  unfold settingsAt at h
  split at h
  · exact nomatch h
  · obtain rfl := Except.ok.inj h
    exact Settings.isSound_usual.toIsBounded
  · exact Settings.isBounded_of_ofText (eq_ok_of_mapError h)
  · obtain ⟨text, -, htext⟩ := Settings.load_eq_ok_iff.mp (eq_ok_of_mapError h)
    exact Settings.isBounded_of_ofText htext

/-- An analysis that gets to its provider makes it, and no other one does. -/
theorem exists_connection?_iff {session : Session} {o : AnalyzeOptions} :
    (∃ connection, session.connection? o = some connection) ↔ session.Enriches o := by
  constructor
  · rintro ⟨connection, h⟩
    obtain ⟨p, hplace, h⟩ := Option.bind_eq_some_iff.mp h
    obtain ⟨s, hs, h⟩ := Option.bind_eq_some_iff.mp h
    rw [connectionWith?_eq] at h
    split at h
    · exact nomatch h
    · next hgo =>
        obtain ⟨⟨htimeout, henrich⟩, hsources⟩ :
            (¬ o.timeout.any (· ≤ 0.0) = true ∧ ¬ (!o.enrich) = true)
              ∧ ¬ (sourcesAt session.workspace s p).isEmpty = true := by
          rwa [Bool.or_eq_true, Bool.or_eq_true, not_or, not_or] at hgo
        have hfound : session.workspace.find o.path = .ok (some p) :=
          eq_ok_of_toOption (Option.join_eq_some_iff.mp hplace)
        exact {
          enrich := by simpa using henrich
          timeout := Bool.eq_false_iff.mpr htimeout
          sources := ⟨p, s, hfound, eq_ok_of_toOption hs,
            fun hnil => hsources (List.isEmpty_iff.mpr hnil)⟩ }
  · rintro ⟨henrich, htimeout, p, s, hplace, hs, hsources⟩
    obtain ⟨chosen, hchosen⟩ := exists_chosenModel (Session.isBounded_of_settingsAt hs).service o
    refine ⟨(chosen, (o.timeout.map .float).getD s.timeout), ?_⟩
    rw [Session.connection?, hplace, hs]
    show connectionWith? session.workspace o p s = _
    rw [connectionWith?_eq, henrich, htimeout, hchosen, List.isEmpty_eq_false_iff.mpr hsources]
    rfl

/-! ## Command lines -/

/-- The options of the analysis that a command line asks for, if it does. -/
def Session.analysisOf? (session : Session) (args : List String) : Option AnalyzeOptions :=
  match session.readArguments args with
  | .ok (.analyze o) => some o
  | _ => none

/-- **CONNECTIONS**: a command line connects to what the analysis that it asks for connects to, and
    to nothing if it asks for anything else or cannot be used. -/
theorem connections_runArguments (session : Session) (args : List String) :
    (runArguments session args).connections
      = ((session.analysisOf? args).bind session.connection?).toList := by
  unfold runArguments planOf Session.analysisOf?
  cases session.readArguments args with
  | error e =>
      cases e with
      | brokenPath f => exact (Plan.isLocal_crashed _).connections_run _
      | _ => exact Plan.isLocal_usage.connections_run _
  | ok c =>
      cases c with
      | analyze o => exact connections_analyzePlan session o session.columns
      | _ => exact (isLocal_plan session (by simp)).connections_run _

end SourceAtlas
