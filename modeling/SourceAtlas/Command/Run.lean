import SourceAtlas.Command.Basic
import SourceAtlas.Command.Display
import SourceAtlas.Command.Workspace
import SourceAtlas.Settings.File

/-!
# Running commands

A command becomes a plan, a list of actions with an ending, which depends on nothing but the
session: the files, the place of the settings, the provider, and how documents and command lines are
read. `Command.plan` makes the plan and `Plan.run` carries it out on a terminal; `runArguments` does
both for a command line.
-/

namespace SourceAtlas

open Command Terminal

/-- What a command depends on. -/
structure Session where
  workspace : Workspace
  /-- The file with the settings unless told otherwise. -/
  usualConfig : String
  /-- The columns of the terminal. -/
  columns : Nat
  /-- The provider for the choice of a language model and a time to wait. -/
  connect : ModelSettings → Value → Option Provider
  /-- The reader of documents with settings. -/
  readDocument : String → Except Toml.Error Value := Toml.read
  /-- The reader of command lines. -/
  readArguments : List String → Except UsageError Command := Command.ofArguments

/-- Why a command breaks. -/
inductive Crash where
  /-- The settings cannot be loaded. -/
  | settings (e : LoadError)
  | analysis (e : AnalysisError)
  /-- The result cannot be written to its file. -/
  | output (o : Obstacle)
  /-- The settings cannot be written. -/
  | unwritable (e : SaveError)
  /-- The markup of a text is wrong. -/
  | markup (f : Markup.Fault)
  /-- A path cannot be followed. -/
  | path (f : PathFault)
  /-- A text with half of a surrogate pair in it is to be shown. -/
  | unprintable
  deriving DecidableEq, Repr

/-- A step of a command. -/
inductive Action where
  /-- A provider is made for the choice of a language model and a time to wait. -/
  | connect (m : ModelSettings) (timeout : Value)
  | show (b : Block)
  | write (p : Place) (text : String)

/-- How a command ends. -/
inductive Ending where
  | exit (status : Nat)
  | crash (c : Crash)
  deriving DecidableEq, Repr

/-- What a command does. -/
structure Plan where
  actions : List Action := []
  ending : Ending := .exit 0

/-- What a command has done. -/
structure CommandResult where
  status : Nat
  output : String := ""
  /-- The choices for which a provider has been made. -/
  connections : List (ModelSettings × Value) := []
  /-- The files that have been written. -/
  written : List (Place × String) := []
  crash : Option Crash := none

namespace Plan

/-- The status of a command line that cannot be used. -/
def usageStatus : Nat := 2

/-- The plan for a command line that cannot be used. -/
def usage : Plan := { ending := .exit usageStatus }

/-- A plan that shows one text and ends. -/
def message (text : String) (status : Nat) : Plan :=
  { actions := [.show (.text text)], ending := .exit status }

/-- A plan that crashes. -/
def crashed (c : Crash) : Plan := { ending := .crash c }

/-- A plan after some actions. -/
def after (actions : List Action) (p : Plan) : Plan :=
  { p with actions := actions ++ p.actions }

/-- Carries actions out, and then comes to an end. Nothing is done after a text that cannot be
    shown. -/
def runActions (columns : Nat) (ending : Ending) : List Action → CommandResult
  | [] =>
    match ending with
    | .exit status => { status }
    | .crash c => { status := 1, crash := some c }
  | .connect m timeout :: rest =>
    let r := runActions columns ending rest
    { r with connections := (m, timeout) :: r.connections }
  | .write p text :: rest =>
    let r := runActions columns ending rest
    { r with written := (p, text) :: r.written }
  | .show b :: rest =>
    match b.render columns with
    | .error f => { status := 1, crash := some (.markup f) }
    | .ok text =>
      if Text.isWellFormed text then
        let r := runActions columns ending rest
        { r with output := text ++ r.output }
      else { status := 1, crash := some .unprintable }

/-- Carries a plan out on a terminal. -/
def run (p : Plan) (columns : Nat) : CommandResult :=
  runActions columns p.ending p.actions

end Plan

namespace Session

/-- The settings in the file at a path; the usual ones if there is no such file. -/
def settingsAt (s : Session) (path : String) : Except Crash Settings :=
  match s.workspace.read path with
  | .error f => .error (.path f)
  | .ok none => .ok .usual
  | .ok (some (.text text)) => (Settings.ofText s.readDocument text).mapError .settings
  | .ok (some (.bytes data)) => (Settings.load s.readDocument data).mapError .settings

/-- The path of the settings. -/
def configPath (s : Session) (path : Option String) : String :=
  tidyPath (path.getD s.usualConfig)

end Session

/-- The path of the user's own settings. They are in a directory of their choice, in which a tilde
    stands for the home directory, or else in a directory of the program. -/
def ownConfigPath (home : String) (choice : Option String) : String :=
  let directory := match choice with
    | none => pathIn home ".codegraph"
    | some directory =>
      match directory.toList with
      | ['~'] => home
      | '~' :: '/' :: rest => pathIn home (.ofList rest)
      | _ => directory
  pathIn directory "config.toml"

/-- A text that is not empty. -/
def given (s : Option String) : Option String :=
  s.filter (!·.isEmpty)

/-- The choice of a language model on the command line, on top of the one in the settings. Another
    service than the one in the settings starts from its own defaults, so that no credentials go
    from one service to another. -/
def chosenModel (m : ModelSettings) (o : AnalyzeOptions) : Except SettingsError ModelSettings := do
  let service := given o.service
  if (service <|> given o.model <|> given o.apiKey <|> given o.endpoint).isNone then return m
  let base ← match service with
    | none => pure m
    | some name =>
      if m.service.text? == some (String.ofList (Text.lower name.toList)) then pure m
      else ModelSettings.make (.text name)
  let chosen (text : Option String) (v : Value) : Value := ((given text).map .text).getD v
  ModelSettings.make base.service (chosen o.model base.model) (chosen o.apiKey base.apiKey)
    (chosen o.endpoint base.endpoint) base.maxTokens base.temperature

/-- The choices on the command line, on top of the settings. -/
def chosenSettings (s : Settings) (o : AnalyzeOptions) : Except SettingsError Settings := do
  let cycleLimit : Value := match o.cycleLimit with
    | none => s.cycleLimit
    | some n => if n < 0 then .null else .int n
  let timeout : Value := (o.timeout.map .float).getD s.timeout
  return { s with cycleLimit, timeout, llm := ← chosenModel s.llm o }

/-- The files to analyse: the files below a directory that have a language and are in no directory
    that is left out, or a single file of any kind. -/
def sourcesAt (w : Workspace) (s : Settings) (p : Place) : List (String × Content) :=
  match w.content? p with
  | some content => [(p.getLast?.getD "", content)]
  | none =>
    (w.filesUnder p).filterMap fun (names, content) =>
      let name := names.getLast?.getD ""
      if names.dropLast.any s.skips || (Language.ofPath? name).isNone then none
      else some ("/".intercalate names, content)

/-- Writes the result to its file if there is one, and shows it. -/
def resultPlan (session : Session) (o : AnalyzeOptions) (a : Analysis) : Plan :=
  let json := a.json (some 2)
  let shown : Plan :=
    { actions := (if o.asJson then [.verbatim json] else analysisBlocks a).map .show }
  match o.output with
  | none => shown
  | some path =>
    match session.workspace.target (tidyPath path) with
    | .error obstacle => .crashed (.output obstacle)
    | .ok place =>
      let note : List Action :=
        if o.asJson then []
        else [.show (.text ("[green]✓[/green] Wrote " ++ tidyPath path))]
      .after (.write place json :: note) shown

/-- Analyses files and shows the result. -/
def sourcesPlan (session : Session) (o : AnalyzeOptions) (s : Settings)
    (sources : List (String × Content)) : Plan :=
  let connection : List Action := if o.enrich then [.connect s.llm s.timeout] else []
  let note : List Action :=
    if o.asJson then []
    else [.show (.text ("[bold cyan]Analyzing " ++ decimalText sources.length ++ " files in "
      ++ tidyPath o.path ++ "...[/bold cyan]"))]
  let options : AnalysisOptions :=
    { cycleLimit := s.cycles, limits := s.limits, enrich := o.enrich
      provider := if o.enrich then session.connect s.llm s.timeout else none }
  let files : Value := .list (sources.map fun (path, content) => .file (.text path) content.value)
  .after (connection ++ note)
    (match analyze options files with
      | .error e => .crashed (.analysis e)
      | .ok a => resultPlan session o a)

/-- The plan of an analysis. -/
def analyzePlan (session : Session) (o : AnalyzeOptions) : Plan :=
  match session.workspace.find o.path with
  | .error _ | .ok none => .usage
  | .ok (some place) =>
    match session.settingsAt (session.configPath o.config) with
    | .error c => .crashed c
    | .ok s =>
      if o.timeout.any (· ≤ 0.0) then .usage
      else match chosenSettings s o with
        | .error _ => .crashed (.settings .notName)
        | .ok s =>
          match sourcesAt session.workspace s place with
          | [] =>
            .message ("[red]✗[/red] No supported source files found under " ++ tidyPath o.path) 1
          | sources => sourcesPlan session o s sources

/-- The plan of a list of languages. -/
def languagesPlan (name : Option String) : Plan :=
  match name with
  | none => { actions := [.show (languagesBlock Language.all)] }
  | some name =>
    match Language.ofTag? (.ofList (Text.lower name.toList)) with
    | none => .message ("[red]✗[/red] Unsupported language: " ++ name) 1
    | some l => { actions := [.show (languagesBlock [l])] }

/-- The settings for a service, with all its defaults. -/
def settingsFor (service : String) : Except SettingsError Settings :=
  (ModelSettings.make (.text service)).map fun llm => { Settings.usual with llm }

/-- The plan of a new file of settings. -/
def initPlan (session : Session) (o : InitOptions) : Plan :=
  let path := session.configPath o.path
  match session.workspace.find path with
  | .error f => .crashed (.path f)
  | .ok found =>
    if found.isSome && !o.force then
      .message ("[yellow]![/yellow] " ++ path ++ " already exists (use --force to overwrite)") 1
    else match session.workspace.target path, settingsFor o.service with
      | .ok place, .ok s =>
        match s.save with
        | .error e => .after [.write place ""] (.crashed (.unwritable e))
        | .ok text =>
          .after [.write place text] (.message ("[green]✓[/green] Wrote " ++ path) 0)
      | _, _ => .message ("[red]✗[/red] Could not write " ++ path) 1

/-- The version of the program. -/
def versionText : String := "codegraph-core v0.1.0"

/-- The plan of a command. -/
def Command.plan (session : Session) : Command → Plan
  | .analyze o => analyzePlan session o
  | .languages name => languagesPlan name
  | .initConfig o => initPlan session o
  | .version => { actions := [.show (.verbatim versionText)] }
  | .help => {}

/-- The plan of a command line. -/
def planOf (session : Session) (args : List String) : Plan :=
  match session.readArguments args with
  | .error (.brokenPath f) => .crashed (.path f)
  | .error _ => .usage
  | .ok c => c.plan session

/-- Carries out a command line. -/
def runArguments (session : Session) (args : List String) : CommandResult :=
  (planOf session args).run session.columns

end SourceAtlas
