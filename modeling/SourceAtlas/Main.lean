import SourceAtlas.Command.Run
import SourceAtlas.Provider.Client

/-!
# The command line

The program sees the files that its arguments name, and, for the analysis of a directory, the files
whose paths stand on its standard input, one on each line. Messages to a service are not delivered:
the program has no network, and every enrichment ends in the local assessment.
-/

namespace SourceAtlas

/-- The content of a file, if it can be read. -/
def readContent? (path : String) : IO (Option Content) := do
  try
    return some (.bytes (← IO.FS.readBinFile path).toList)
  catch _ => return none

/-- The paths on the standard input. -/
partial def readPaths (input : IO.FS.Stream) : IO (List String) := do
  let line ← input.getLine
  if line.isEmpty then return []
  let path := String.ofList (Text.dropEnd Text.isLineBreak line.toList)
  return path :: (← readPaths input)

/-- The files at some paths, seen from the working directory. -/
def readFiles (here : Place) (paths : List String) : IO (List (Place × Content)) := do
  let empty : Workspace := { here }
  let found ← paths.mapM fun path => do
    return (← readContent? path).map fun content => (empty.place path, content)
  return found.filterMap id

/-- The paths that a command names. -/
def namedPaths (usualConfig : String) : Command → List String
  | .analyze o => [o.path, o.config.getD usualConfig] ++ o.output.toList
  | .initConfig o => [o.path.getD usualConfig]
  | _ => []

/-- The files that a command line needs. -/
def readWorkspace (here : Place) (usualConfig : String) (args : List String) : IO Workspace := do
  match Command.ofArguments args with
  | .error _ => return { here }
  | .ok c =>
    let named ← readFiles here (namedPaths usualConfig c)
    match c with
    | .analyze o =>
      let isFile := (named.lookup (Workspace.place { here } o.path)).isSome
      if isFile then return { here, files := named }
      let listed ← readFiles here (← readPaths (← IO.getStdin))
      return { here, files := listed ++ named.filter fun (p, _) => (listed.lookup p).isNone }
    | _ => return { here, files := named }

/-- Writes a file, in new directories if need be. -/
def writeFile (p : Place) (text : String) : IO Unit := do
  IO.FS.createDirAll ("/" ++ "/".intercalate p.dropLast)
  IO.FS.writeFile ("/" ++ "/".intercalate p) text

end SourceAtlas

open SourceAtlas in
/-- Carries out the command line. -/
def main (args : List String) : IO UInt32 := do
  let here := (pathComponents (toString (← IO.currentDir))).filter (· ≠ "")
  let home := (← IO.getEnv "HOME").getD "."
  let usualConfig := ownConfigPath home (← IO.getEnv "CODEGRAPH_HOME")
  let columns := ((← IO.getEnv "COLUMNS").bind String.toNat?).getD 80
  let session : Session :=
    { workspace := ← readWorkspace here usualConfig args, usualConfig, columns
      connect := fun m timeout => some ((Client.make m timeout).provider fun _ => .failed) }
  let r := runArguments session args
  for (p, text) in r.written do writeFile p text
  IO.print r.output
  if r.crash.isSome then IO.eprintln "The command has broken off."
  if r.status = Plan.usageStatus then IO.eprintln "The command line cannot be used."
  return r.status.toUInt32
