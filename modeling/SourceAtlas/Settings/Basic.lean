import SourceAtlas.Decimal.FromText
import SourceAtlas.Enrichment.Controller
import SourceAtlas.Graph.CycleSearch
import SourceAtlas.Text.Case
import SourceAtlas.Value.Order

/-!
# Settings

What the user can choose about an analysis and about the language model that enriches it. Settings
come from outside and are kept as they were given: a field holds any value that passes its test.
Main functions: `ModelSettings.make` and `Settings.make`, which apply defaults and tests.
-/

namespace SourceAtlas

/-- The services that offer language models. -/
inductive Service where
  | ollama
  | groq
  | openai
  | openrouter
  | anthropic
  | gemini
  deriving DecidableEq, Repr

namespace Service

/-- The name of a service. -/
def word : Service → String
  | ollama => "ollama"
  | groq => "groq"
  | openai => "openai"
  | openrouter => "openrouter"
  | anthropic => "anthropic"
  | gemini => "gemini"

/-- All services. -/
def all : List Service := [ollama, groq, openai, openrouter, anthropic, gemini]

/-- The service with a name. -/
def ofWord? (s : String) : Option Service :=
  all.find? (·.word = s)

theorem ofWord?_word (s : Service) : ofWord? s.word = some s := by
  cases s <;> decide

/-- The model that is used unless told otherwise. -/
def usualModel : Service → String
  | ollama => "qwen2.5-coder:7b"
  | groq => "llama-3.3-70b-versatile"
  | openai => "gpt-4o-mini"
  | openrouter => "google/gemini-2.0-flash-exp:free"
  | anthropic => "claude-3-5-sonnet-20241022"
  | gemini => "gemini-2.0-flash"

/-- The address at which a service is reached. -/
def usualEndpoint : Service → String
  | ollama => "http://127.0.0.1:11434/api/generate"
  | groq => "https://api.groq.com/openai/v1/chat/completions"
  | openai => "https://api.openai.com/v1/chat/completions"
  | openrouter => "https://openrouter.ai/api/v1/chat/completions"
  | anthropic => "https://api.anthropic.com/v1/messages"
  | gemini => "https://generativelanguage.googleapis.com/v1beta/models"

end Service

/-- Why settings cannot be used. -/
inductive SettingsError where
  /-- A value is out of bounds. -/
  | outOfBounds (message : String)
  /-- A value of the wrong kind is compared with a number. -/
  | notNumber
  /-- The name of the service is not a text. -/
  | notName
  /-- A value cannot be a set of directories. -/
  | notSet
  /-- There is no setting with this name. -/
  | unknownName
  deriving DecidableEq, Repr

/-- The choice of a language model. -/
structure ModelSettings where
  /-- The name of the service. -/
  service : Value
  model : Value
  apiKey : Value
  endpoint : Value
  maxTokens : Value
  temperature : Value

namespace ModelSettings

/-- The most tokens in an answer unless told otherwise. -/
def usualMaxTokens : Value := .int 4096

/-- The temperature unless told otherwise. -/
def usualTemperature : Value := .float 0.1

/-- The service that settings name, if it is known. -/
def service? (m : ModelSettings) : Option Service :=
  m.service.text?.bind Service.ofWord?

/-- The name of a service in small letters; a missing name stands for the first service. -/
def serviceName : Value → Except SettingsError String
  | .text s => .ok (if s.isEmpty then Service.ollama.word else .ofList (Text.lower s.toList))
  | v => if v.isVoid then .ok Service.ollama.word else .error .notName

/-- Applies the defaults. A missing model or endpoint is the usual one of the service, and empty
    for an unknown service. -/
def make (service : Value := .null) (model : Value := .null) (apiKey : Value := .text "")
    (endpoint : Value := .null) (maxTokens : Value := usualMaxTokens)
    (temperature : Value := usualTemperature) : Except SettingsError ModelSettings :=
  (serviceName service).map fun name =>
    let known := Service.ofWord? name
    { service := .text name
      model := model.orElse (.text ((known.map (·.usualModel)).getD ""))
      apiKey
      endpoint := endpoint.orElse (.text ((known.map (·.usualEndpoint)).getD ""))
      maxTokens
      temperature }

/-- The settings for a service with all its defaults. -/
def ofService (s : Service) : ModelSettings where
  service := .text s.word
  model := .text s.usualModel
  apiKey := .text ""
  endpoint := .text s.usualEndpoint
  maxTokens := usualMaxTokens
  temperature := usualTemperature

/-- The settings unless told otherwise. -/
def usual : ModelSettings := ofService .ollama

/-- The names of the settings. -/
def names : List String :=
  ["provider", "model", "api_key", "endpoint", "max_tokens", "temperature"]

/-- Settings from named values, of which unknown ones are ignored. -/
def ofEntries (entries : Entries) : Except SettingsError ModelSettings :=
  let named (key : String) (default : Value) : Value := (entries.lookup key).getD default
  make (named "provider" .null) (named "model" .null) (named "api_key" (.text ""))
    (named "endpoint" .null) (named "max_tokens" usualMaxTokens)
    (named "temperature" usualTemperature)

/-- Settings in a report. -/
def report (m : ModelSettings) : Value :=
  .record [("provider", m.service), ("model", m.model), ("api_key", m.apiKey),
    ("endpoint", m.endpoint), ("max_tokens", m.maxTokens), ("temperature", m.temperature)]

end ModelSettings

/-- The directories that are not searched unless told otherwise. -/
def usualSkippedDirectories : List String := [
  ".venv", "venv", "__pycache__", "node_modules", ".git", "site-packages", ".tox",
  ".pytest_cache", "build", "dist", ".mypy_cache", ".ruff_cache", "htmlcov", ".eggs", ".idea",
  ".vscode", "target", "vendor", ".gradle", ".next"]

/-- The choices about an analysis. -/
structure Settings where
  /-- The number of cycles to look for; without one, all of them. -/
  cycleLimit : Value
  /-- The time to wait for a provider, in seconds. -/
  timeout : Value
  /-- The number of characters in a request. -/
  requestLimit : Value
  /-- The number of files that are read at the same time. -/
  workers : Value
  /-- The names of directories that are not searched, each only once, in any order. -/
  skippedDirectories : List Value
  llm : ModelSettings

namespace Settings

/-- Compares a setting with a bound. -/
def compared (v : Value) (test : Number → Bool) : Except SettingsError Bool :=
  match v.number? with
  | some n => .ok (test n)
  | none => .error .notNumber

/-- A number of cycles; a negative one means all of them. -/
def checkCycleLimit (v : Value) : Except SettingsError Value :=
  match v with
  | .null => .ok .null
  | v => (compared v (·.isBelow (.whole 0))).map fun negative => if negative then .null else v

/-- A setting that must be positive. -/
def checkPositive (name : String) (v : Value) : Except SettingsError Value :=
  match compared v (·.isAtMost (.whole 0)) with
  | .error e => .error e
  | .ok true => .error (.outOfBounds (name ++ " must be positive"))
  | .ok false => .ok v

/-- A number of workers, if there is one. -/
def checkWorkers (v : Value) : Except SettingsError Value :=
  match v with
  | .null => .ok .null
  | v =>
    match compared v (·.isBelow (.whole 1)) with
    | .error e => .error e
    | .ok true => .error (.outOfBounds "max_workers must be >= 1")
    | .ok false => .ok v

/-- Tests all settings, in this order. -/
def make (s : Settings) : Except SettingsError Settings := do
  let cycleLimit ← checkCycleLimit s.cycleLimit
  let timeout ← checkPositive "enrichment_timeout" s.timeout
  let requestLimit ← checkPositive "context_char_limit" s.requestLimit
  let workers ← checkWorkers s.workers
  return { s with cycleLimit, timeout, requestLimit, workers }

/-- The settings unless told otherwise. -/
def usual : Settings where
  cycleLimit := .int usualCycleLimit
  timeout := .float 60.0
  requestLimit := .int usualRequestLimit
  workers := .null
  skippedDirectories := usualSkippedDirectories.map .text
  llm := .usual

/-- The names of the settings. -/
def names : List String :=
  ["max_cycles", "enrichment_timeout", "context_char_limit", "max_workers", "skip_dirs", "llm"]

/-- The members of a set of directories. -/
def membersOf (v : Value) : Except SettingsError (List Value) :=
  match v.items? with
  | some items => if items.all (·.isMember) then .ok (Value.distinct items) else .error .notSet
  | none => .error .notSet

/-- Settings from named values, apart from the choice of a language model. -/
def ofEntries (entries : Entries) (llm : ModelSettings) : Except SettingsError Settings := do
  let named (key : String) (default : Value) : Value := (entries.lookup key).getD default
  let skippedDirectories ← match entries.lookup "skip_dirs" with
    | some v => membersOf v
    | none => pure usual.skippedDirectories
  make {
    cycleLimit := named "max_cycles" usual.cycleLimit
    timeout := named "enrichment_timeout" usual.timeout
    requestLimit := named "context_char_limit" usual.requestLimit
    workers := named "max_workers" usual.workers
    skippedDirectories
    llm }

/-- The number of cycles to look for. A fraction is rounded up, and a limit that no number of
    cycles can reach is none. -/
def cycles (s : Settings) : Option Nat :=
  s.cycleLimit.number?.bind (·.countLimit?)

/-- The limits of the enrichment. -/
def limits (s : Settings) : EnrichmentLimits where
  timeout := (s.timeout.number?).getD (.whole 0)
  request := (s.requestLimit.number?).getD (.whole 0)

/-- A directory is not searched. -/
def skips (s : Settings) (directory : String) : Bool :=
  s.skippedDirectories.any (·.text? = some directory)

/-- The names of directories that are not searched in order, if they have one. -/
def sortedDirectories? (s : Settings) : Option (List Value) :=
  Value.sort? s.skippedDirectories

/-- Settings in a report, if the directories can be sorted. -/
def report? (s : Settings) : Option Value :=
  s.sortedDirectories?.map fun directories =>
    .record [("max_cycles", s.cycleLimit), ("enrichment_timeout", s.timeout),
      ("context_char_limit", s.requestLimit), ("max_workers", s.workers),
      ("skip_dirs", .list directories), ("llm", s.llm.report)]

/-- The settings are the usual ones, however their numbers are written. -/
def isUsual (s : Settings) : Bool :=
  let fields (s : Settings) : List Value :=
    [s.cycleLimit, s.timeout, s.requestLimit, s.workers, s.llm.service, s.llm.model,
      s.llm.apiKey, s.llm.endpoint, s.llm.maxTokens, s.llm.temperature]
  let directories := usual.skippedDirectories
  Value.areSame (fields s) (fields usual)
    && s.skippedDirectories.length = directories.length
    && s.skippedDirectories.all fun v => directories.any (·.isSame v)

end Settings

end SourceAtlas
