import SourceAtlas.Command.PathText

/-!
# Arguments of a command line

The arguments of a command are options and positional arguments. An option has one or more names; a
long name starts with two hyphens, a short one with one hyphen, and several short ones may share a
hyphen. Some options take a value, which follows the option or is attached to it. Two hyphens alone
end the options. Main function: `readArguments`.
-/

namespace SourceAtlas.Command

/-- What the value of an option is. -/
inductive ValueKind where
  | text
  | whole
  | number
  | path
  deriving DecidableEq, Repr

/-- An option of a command. The first of its names stands for it. -/
structure OptionSpec where
  name : String
  others : List String := []
  /-- What its value is, if it takes one. -/
  value : Option ValueKind := none
  deriving Repr

/-- The option takes a value. -/
def OptionSpec.takesValue (s : OptionSpec) : Bool := s.value.isSome

/-- Why a command line cannot be used. -/
inductive UsageError where
  | unknownOption (name : String)
  | missingValue (name : String)
  | unexpectedValue (name : String)
  | missingCommand
  | unknownCommand (name : String)
  | missingArgument
  | extraArgument (text : String)
  /-- The value of an option is of the wrong kind. -/
  | badValue (name : String)
  /-- A text that is no path. It breaks the program, as nothing else does here. -/
  | brokenPath (fault : PathFault)
  deriving DecidableEq, Repr

/-- An option as it occurs, under its own name, with the value if it takes one. -/
abbrev Occurrence := String × Option String

/-- The arguments of a command, sorted out. -/
structure Arguments where
  options : List Occurrence := []
  /-- The positional arguments. -/
  texts : List String := []
  deriving Repr

namespace Arguments

/-- An option occurs. -/
def has (a : Arguments) (name : String) : Bool :=
  a.options.any (·.1 = name)

/-- The value of an option where it occurs last. -/
def value? (a : Arguments) (name : String) : Option String :=
  (a.options.reverse.lookup name).join

/-- The same arguments after some options. -/
def after (a : Arguments) (options : List Occurrence) : Arguments :=
  { a with options := options ++ a.options }

end Arguments

/-- The option with a name. -/
def findOption? (specs : List OptionSpec) (name : String) : Option OptionSpec :=
  specs.find? fun s => s.name = name || s.others.contains name

/-- What one argument brings: options that are complete, and possibly one that still waits for its
    value. -/
structure Argument where
  options : List Occurrence := []
  waiting : Option String := none

/-- Options that share a hyphen. What follows an option that takes a value is its value. -/
def readShort (specs : List OptionSpec) : List Char → Except UsageError Argument
  | [] => .ok {}
  | c :: rest =>
    let name := String.ofList ['-', c]
    match findOption? specs name with
    | none => .error (.unknownOption name)
    | some s =>
      if s.takesValue then
        if rest.isEmpty then .ok { waiting := some s.name }
        else .ok { options := [(s.name, some (.ofList rest))] }
      else
        (readShort specs rest).map fun a => { a with options := (s.name, none) :: a.options }

/-- An option with a long name, and its value if one is attached to it. -/
def readLong (specs : List OptionSpec) (cs : List Char) : Except UsageError Argument :=
  let name := String.ofList (cs.takeWhile (· ≠ '='))
  let attached := match cs.dropWhile (· ≠ '=') with
    | [] => none
    | _ :: rest => some (String.ofList rest)
  match findOption? specs name with
  | none => .error (.unknownOption name)
  | some s =>
    match s.takesValue, attached with
    | true, none => .ok { waiting := some s.name }
    | true, some v => .ok { options := [(s.name, some v)] }
    | false, none => .ok { options := [(s.name, none)] }
    | false, some _ => .error (.unexpectedValue s.name)

/-- What an argument brings that starts with a hyphen. -/
def readOption (specs : List OptionSpec) (cs : List Char) : Except UsageError Argument :=
  match cs with
  | '-' :: '-' :: _ => readLong specs cs
  | _ => readShort specs (cs.drop 1)

/-- The argument is an option and not just a hyphen. -/
def isOption (arg : String) : Bool :=
  match arg.toList with
  | '-' :: _ :: _ => true
  | _ => false

/-- Sorts arguments out while an option may be waiting for its value. If `mixed` is false, the first
    positional argument ends the options. -/
def readArgumentsFrom (specs : List OptionSpec) (mixed : Bool) :
    (waiting : Option String) → List String → Except UsageError Arguments
  | some name, [] => .error (.missingValue name)
  | some name, v :: rest =>
    (readArgumentsFrom specs mixed none rest).map (·.after [(name, some v)])
  | none, [] => .ok {}
  | none, arg :: rest =>
    if arg = "--" then .ok { texts := rest }
    else if isOption arg then
      match readOption specs arg.toList with
      | .error e => .error e
      | .ok a => (readArgumentsFrom specs mixed a.waiting rest).map (·.after a.options)
    else if mixed then
      (readArgumentsFrom specs mixed none rest).map fun a => { a with texts := arg :: a.texts }
    else .ok { texts := arg :: rest }

/-- Sorts arguments out. -/
def readArguments (specs : List OptionSpec) (mixed : Bool) (args : List String) :
    Except UsageError Arguments :=
  readArgumentsFrom specs mixed none args

end SourceAtlas.Command
