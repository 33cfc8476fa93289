import CloudAudit.Program.Commands
import Std.Time.DateTime.Timestamp

/-!
# The program

Carries out the command on a command line and prints its text. Programs are not run from here, so
a query without a snapshot fails as if the Azure command line were not installed.
-/

namespace CloudAudit

/-- The cause of a failed attempt at a file. -/
def FileError.ofIO (e : IO.Error) : FileError :=
  match e with
  | .noFileOrDirectory _ _ _ => .notFound
  | .alreadyExists _ _ _ => .taken
  | .inappropriateType _ 20 _ => .notFolder
  | .inappropriateType _ 21 _ => .isFolder
  | e => .other (toString e)

/-- The result of an attempt, or why it failed. -/
def attempt {α : Type} (action : IO α) : IO (Except FileError α) := do
  try return .ok (← action)
  catch e => return .error (FileError.ofIO e)

namespace Host

/-- The folders and variables of the process. -/
def process : Host IO where
  read path := attempt (IO.FS.readFile path)
  isFile path := do
    let found ← attempt ((← IO.currentDir) / path).metadata
    return found.toOption.any fun entry => entry.type == .file
  names path := attempt do
    let entries ← ((← IO.currentDir) / path).readDir
    return entries.toList.map fun entry => entry.fileName
  write path text := attempt (IO.FS.writeFile path text)
  createFolders path := attempt (IO.FS.createDirAll path)
  here := return toString (← IO.currentDir)
  lookup name := IO.getEnv name
  run _ _ := return .notStarted FileError.notFound.message
  now := return .afterEpoch (← Std.Time.Timestamp.now).toNanosecondsSinceUnixEpoch.val.toNat

end Host

def usage : String :=
  "Usage: compliance-checker [OPTIONS] <COMMAND>\n\nCommands:\n"
    ++ String.join ((Command.names ++ ["help"]).map fun name => s!"  {name}\n")
    ++ "\nOptions:\n"
    ++ String.join (Invocation.grammar.options.map fun form => s!"  --{form.name}\n")

/-- The variables that may stand in for options, with the environment file. -/
def optionVariables : IO (List (String × String)) := do
  let defined ← EnvironmentFile.load Host.process
  let values ← Invocation.fallbackNames.mapM fun name => do
    let found ← EnvironmentFile.value? Host.process.lookup defined name
    return found.map fun value => (name, value)
  return values.filterMap id

end CloudAudit

open CloudAudit in
/-- Ends with 2 for a command line that cannot be read, and with 1 for a command that fails. -/
def main (arguments : List String) : IO UInt32 := do
  let values ← optionVariables
  match Invocation.parse? (fun name => values.lookup name) arguments with
  | .error .help =>
    IO.print usage
    return 0
  | .error .version =>
    IO.println "compliance-checker 1.0.0"
    return 0
  | .error e =>
    IO.eprintln s!"error: {e.message}\n\n{usage}"
    return 2
  | .ok invocation =>
    match ← (invocation.run Host.process).run with
    | .ok text =>
      IO.println (String.ofList (Text.dropBlanksEnd text.toList))
      return 0
    | .error e =>
      let message := e.message?.getD "a file does not hold what it should"
      IO.eprintln s!"Error: {message}"
      return 1
