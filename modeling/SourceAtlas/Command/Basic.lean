import SourceAtlas.Command.Arguments
import SourceAtlas.Decimal.FromText

/-!
# Commands

What the user can ask for on the command line. Main function: `Command.ofArguments`, which reads a
command from its arguments or says what is wrong with them.
-/

namespace SourceAtlas

namespace Command

/-- The choices about an analysis that are made on the command line. -/
structure AnalyzeOptions where
  /-- A directory or a single file. -/
  path : String
  enrich : Bool := false
  /-- The name of a service. -/
  service : Option String := none
  model : Option String := none
  apiKey : Option String := none
  endpoint : Option String := none
  asJson : Bool := false
  /-- The file that the result is written to. -/
  output : Option String := none
  /-- The number of cycles to look for; a negative one means all of them. -/
  cycleLimit : Option Int := none
  /-- The time to wait for a provider, in seconds. -/
  timeout : Option Float := none
  /-- The file with the settings. -/
  config : Option String := none

/-- The choices about a new file of settings. -/
structure InitOptions where
  path : Option String := none
  service : String := "ollama"
  /-- A file that is there is replaced. -/
  force : Bool := false

end Command

/-- What the user asks for. -/
inductive Command where
  | analyze (o : Command.AnalyzeOptions)
  /-- The supported languages, or a single one. -/
  | languages (name : Option String)
  | initConfig (o : Command.InitOptions)
  | version
  | help

namespace Command

/-- The option that asks for help. -/
def helpOption : OptionSpec := { name := "--help" }

/-- The options in front of a command. -/
def generalOptions : List OptionSpec := [
  { name := "--version", others := ["-V"] }, { name := "--verbose", others := ["-v"] },
  helpOption]

/-- The options of an analysis. -/
def analyzeSpecs : List OptionSpec := [
  { name := "--enrich" }, { name := "--provider", value := some .text },
  { name := "--model", value := some .text }, { name := "--api-key", value := some .text },
  { name := "--endpoint", value := some .text }, { name := "--json" },
  { name := "--output", others := ["-o"], value := some .path },
  { name := "--max-cycles", value := some .whole }, { name := "--timeout", value := some .number },
  { name := "--config", value := some .path }, helpOption]

/-- The options for a new file of settings. -/
def initSpecs : List OptionSpec := [
  { name := "--path", value := some .path }, { name := "--provider", value := some .text },
  { name := "--force" }, helpOption]

/-- The value of an option, read as a number. -/
def optionValue? {α : Type} (a : Arguments) (name : String) (read : String → Option α) :
    Except UsageError (Option α) :=
  match a.value? name with
  | none => .ok none
  | some v =>
    match read v with
    | some x => .ok (some x)
    | none => .error (.badValue name)

/-- Checks the spelling of a path. -/
def checkPath (path : String) : Except UsageError Unit :=
  match spellingFault? path with
  | none => .ok ()
  | some fault => .error (.brokenPath fault)

/-- Checks the value of an option. -/
def checkValue (specs : List OptionSpec) (a : Arguments) (name : String) :
    Except UsageError Unit :=
  match (findOption? specs name).bind (·.value), a.value? name with
  | some .whole, some v => if (asciiWhole? v).isSome then .ok () else .error (.badValue name)
  | some .number, some v => if (asciiFloat? v).isSome then .ok () else .error (.badValue name)
  | some .path, some v => checkPath v
  | _, _ => .ok ()

/-- Checks the values of all options in the order in which these occur. -/
def checkValues (specs : List OptionSpec) (a : Arguments) : Except UsageError Unit :=
  a.options.forM fun (name, _) => checkValue specs a name

/-- No more than so many positional arguments. -/
def atMost (n : Nat) (a : Arguments) : Except UsageError Unit :=
  match a.texts.drop n with
  | [] => .ok ()
  | s :: _ => .error (.extraArgument s)

/-- Reads a request for an analysis. -/
def readAnalyze (a : Arguments) : Except UsageError Command := do
  let some path := a.texts.head? | throw .missingArgument
  checkPath path
  atMost 1 a
  let cycleLimit ← optionValue? a "--max-cycles" asciiWhole?
  let timeout ← optionValue? a "--timeout" asciiFloat?
  return .analyze {
    path, cycleLimit, timeout
    enrich := a.has "--enrich"
    service := a.value? "--provider"
    model := a.value? "--model"
    apiKey := a.value? "--api-key"
    endpoint := a.value? "--endpoint"
    asJson := a.has "--json"
    output := a.value? "--output"
    config := a.value? "--config" }

/-- Reads a request for the languages. -/
def readLanguages (a : Arguments) : Except UsageError Command := do
  atMost 1 a
  return .languages a.texts.head?

/-- Reads a request for a new file of settings. -/
def readInit (a : Arguments) : Except UsageError Command := do
  atMost 0 a
  return .initConfig {
    path := a.value? "--path"
    service := (a.value? "--provider").getD "ollama"
    force := a.has "--force" }

/-- Reads a command from the arguments after its name. A call for help comes before all that is
    wrong with their values and number, and the values of options come before the rest. -/
def readNamed (specs : List OptionSpec) (read : Arguments → Except UsageError Command)
    (args : List String) : Except UsageError Command :=
  match readArguments specs true args with
  | .error e => .error e
  | .ok a =>
    if a.has helpOption.name then .ok .help
    else match checkValues specs a with
      | .error e => .error e
      | .ok () => read a

/-- Reads a command from all its arguments. Of the version and the help, the one that is asked for
    first is shown. -/
def ofArguments (args : List String) : Except UsageError Command :=
  match readArguments generalOptions false args with
  | .error e => .error e
  | .ok a =>
    match a.options.find? fun (name, _) => name ≠ "--verbose" with
    | some (name, _) => .ok (if name = helpOption.name then .help else .version)
    | none =>
      match a.texts with
      | [] => .error .missingCommand
      | "analyze" :: rest => readNamed analyzeSpecs readAnalyze rest
      | "languages" :: rest => readNamed [helpOption] readLanguages rest
      | "init-config" :: rest => readNamed initSpecs readInit rest
      | name :: _ => .error (.unknownCommand name)

end Command

end SourceAtlas
