import MetricLayer.Cli.Outcome

/-!
# The program

Reads what an invocation needs from its surroundings and prints what the invocation leads to.
-/

namespace MetricLayer.Cli

/-- The text that some bytes encode. -/
def decodeText (bytes : ByteArray) : FileState :=
  match String.fromUTF8? bytes with
  | some s => .text s
  | none => .unreadable "stream did not contain valid UTF-8"

/-- Looks at what stands at a path. -/
def inspect (path : String) : IO FileState := do
  try
    return decodeText (← IO.FS.readBinFile path)
  catch e =>
    match e with
    | .noFileOrDirectory .. => return .missing
    | .inappropriateType .. => return .unreadable "Is a directory (os error 21)"
    | e => return .unreadable (toString e)

/-- Reads the standard input to its end. -/
def readInput : IO FileState := do
  let input ← IO.getStdin
  return decodeText (← input.readBinToEnd)

/-- The directory with the settings of the user. -/
def userDirectory : IO (Option String) := do
  match ← IO.getEnv "XDG_CONFIG_HOME" with
  | some dir => if dir.startsWith "/" then return some dir
  | none => pure ()
  return (← IO.getEnv "HOME").map (· ++ "/.config")

/-- The values of some keys that are known. -/
def valueAt {α : Type} (entries : List (String × α)) (key : String) : Option α :=
  entries.lookup key

/-- Looks at what an invocation needs from its surroundings. -/
def observe (i : Invocation) : IO Surroundings := do
  let named ← IO.getEnv Settings.fileVariable
  let configDirectory ← userDirectory
  let source? :=
    match i with
    | .command c => c.source?
    | _ => none
  let (input, requestPaths) ←
    match source? with
    | some .standardInput => pure (← readInput, [])
    | some (.file path) => pure (.text "", [path])
    | none => pure (.text "", [])
  let places := Settings.locations named configDirectory
  let states ← (places.map (·.path) ++ requestPaths).mapM fun path => do
    return (path, ← inspect path)
  let files := fun path => (valueAt states path).getD .missing
  let names :=
    match Settings.loadFrom files places with
    | .ok settings => (settings.storage.database.map Template.names).getD []
    | .error _ => []
  let values ← names.mapM fun name => do
    return (name, ← IO.getEnv name)
  let environment := fun name =>
    if name = Settings.fileVariable then named else (valueAt values name).join
  return { environment, files, input, configDirectory }

/-- Prints an outcome. -/
def Outcome.print (o : Outcome) : IO Unit := do
  (← IO.getStdout).putStr o.output
  (← IO.getStderr).putStr o.errors

/-- What the arguments lead to, with what they need looked at. -/
def observedEnding (arguments : List String) : IO Ending := do
  match Invocation.parse arguments with
  | .error e => return .outcome (.misused e)
  | .ok i => return i.perform (← observe i)

/-- Runs the program to its exit code. There is no engine in it. -/
def runProgram (arguments : List String) : IO UInt32 := do
  let outcome : Outcome :=
    match ← observedEnding arguments with
    | .outcome o => o
    | .execution e => .failed ("Error opening '" ++ e.database ++ "': no engine is built in")
  outcome.print
  return outcome.code.toUInt32

end MetricLayer.Cli

/-- The program. -/
def main (arguments : List String) : IO UInt32 :=
  MetricLayer.Cli.runProgram arguments
