import MarkedRoutes.Command.Run
import MarkedRoutes.Source.ItemGrammar

/-!
# The command line

The program reads the files that an invocation names, and those it finds by
itself, below the working directory.  It runs the command on their texts and
writes back what changed.  Events and faults go to the error stream.
-/

namespace MarkedRoutes

/-- The variables that the program looks at. -/
def variableNames : List String :=
  ["ROUTECRAFT_CONFIG", "ROUTECRAFT_MODULE_PATH", "ROUTECRAFT_RUNTIME_PATH",
    "ROUTECRAFT_REGISTER_FN", "ROUTECRAFT_FORMAT", "ROUTECRAFT_RUSTFMT_BIN"]

def readVariables : IO (List (String × String)) :=
  variableNames.filterMapM fun name => do
    return (← IO.getEnv name).map fun value => (name, value)

def valueIn (environment : List (String × String)) (name : String) : Option String :=
  (environment.find? fun entry => entry.1 = name).map Prod.snd

/-- A path without the dots that stay in place. -/
def plainPath (path : String) : String :=
  Text.joinTexts "/" ((pathComponents path).filter fun piece => piece ≠ ".")

/-- The paths that an invocation may read. -/
def pathsOf (invocation : Invocation) : List String :=
  (invocation.input :: defaultConfigurationPath ::
    (invocation.configPath.toList ++ invocation.output.toList)).map plainPath

/-- The file at a path with its text, if it can be read. -/
def readFile? (path : String) : IO (Option (String × String)) := do
  try
    return some (path, ← IO.FS.readFile path)
  catch _ =>
    return none

/-- Writes a file, making the directories above it. -/
def writeFileAt (path content : String) : IO Unit := do
  let above := (pathComponents path).dropLast
  if !above.isEmpty then IO.FS.createDirAll (Text.joinTexts "/" above)
  IO.FS.writeFile path content

def Event.line (event : Event) : String :=
  event.level.name ++ " " ++ event.message ++
    String.join (event.fields.map fun field => " " ++ field.1 ++ "=" ++ field.2)

/-- Runs an invocation on the files that it names.  No formatting program is started. -/
def runInvocation (environment : List (String × String)) (invocation : Invocation) :
    IO UInt32 := do
  let before ← (pathsOf invocation).eraseDups.filterMapM readFile?
  let place : Workplace := ⟨.ofFiles before, valueIn environment, fun _ _ _ => .missing⟩
  let outcome := @runCommand .standard place invocation
  for event in outcome.events do
    IO.eprintln event.line
  for (path, content) in outcome.files.toFiles do
    if valueIn before path ≠ some content then writeFileAt path content
  match outcome.result with
  | .ok printed =>
    IO.print printed
    return 0
  | .error fault =>
    IO.eprintln fault.message
    return 1

end MarkedRoutes

/-- Runs the command that the arguments name. -/
def main (arguments : List String) : IO UInt32 := do
  let environment ← MarkedRoutes.readVariables
  match MarkedRoutes.parseArguments (MarkedRoutes.valueIn environment "ROUTECRAFT_CONFIG")
      arguments with
  | .ok invocation => MarkedRoutes.runInvocation environment invocation
  | .error fault =>
    IO.eprintln fault.name
    return 2
