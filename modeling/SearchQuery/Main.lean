import SearchQuery.CommandLine.Arguments
import SearchQuery.CommandLine.Run

/-!
# The command line

Arguments, environment and input are gathered, handed to a pure run, and its outcome is printed:
the output alone on the standard output, everything else on the standard error.
-/

namespace SearchQuery

/-- The environment variables that are set. -/
def readEnvironment : IO Environment := do
  let names := OptionKey.global.filterMap OptionKey.envVar? ++ OptionKey.input.envVar?.toList
  let found ← names.mapM fun name => return (name, ← IO.getEnv name)
  return found.filterMap fun (name, value) => value.map fun value => (name, value)

/-- All bytes of a stream. -/
partial def readAll (stream : IO.FS.Stream) (before : ByteArray) : IO ByteArray := do
  let more ← stream.read 65536
  if more.isEmpty then return before else readAll stream (before ++ more)

/-- The text of an input, `none` if it cannot be read or is no UTF-8. -/
def readInput (input : Input) : IO (Option String) := do
  try
    let bytes ← match input with
      | .file path => IO.FS.readBinFile path
      | .standard => readAll (← IO.getStdin) .empty
    return String.fromUTF8? bytes
  catch _ => return none

/-- Writes an event on a line. -/
def logEvent (e : Event) : IO Unit :=
  IO.eprintln s!"{e.level.name} {e.message} {(Json.Value.object e.fields).text .compact}"

/-- Runs a usable configuration; answers the exit code. -/
def runConfig (config : Config) : IO UInt32 := do
  let text ← match config.command.input? with
    | some input => readInput input
    | none => pure none
  let run := config.run text
  for e in run.events do
    if config.shows e.level then logEvent e
  match run.result with
  | .ok output =>
    IO.println output
    return 0
  | .error e =>
    IO.eprintln s!"Error: {e.message}"
    if let some message := e.cause?.bind ReadError.message? then
      IO.eprintln s!"Caused by: {message}"
    return 1

end SearchQuery

open SearchQuery

/-- Runs the command that the arguments ask for. -/
def main (arguments : List String) : IO UInt32 := do
  match Config.ofArguments (← readEnvironment) arguments with
  | .error .help =>
    IO.println "Commands: compile, ids, by-id, all, fields, help"
    return 0
  | .error .misuse =>
    IO.eprintln "error: unusable arguments; try --help"
    return 2
  | .ok config =>
    if config.errors.isEmpty then runConfig config
    else
      for e in config.errors do
        IO.eprintln s!"Configuration error: {e.message}"
      return 2
