import VersionOrder.Shell

/-!
# The command line

Reads the arguments, the environment and the file that holds the settings, runs the command, and
prints what it leaves behind: its output to the standard output, its notes to the standard error.
-/

namespace VersionOrder

/-- How the command line is used. -/
def usage : List String :=
  ["Usage: verspan [--config PATH] [--verbose] COMMAND ...",
    "",
    "  compare LEFT RIGHT [--scheme CODE]",
    "  sort VERSION... [--scheme CODE] [--reverse]",
    "  normalize VERSION [--scheme CODE]",
    "  contains VERSION [--lower VERSION] [--lower-open] [--upper VERSION] [--upper-open]",
    "           [--scheme CODE] [--strict]",
    "  inspect VERSION [--scheme CODE]",
    "  schemes"]

/-- What is found at a path that the system fails to follow. -/
def stateOfError : IO.Error → FileState
  | .noFileOrDirectory .. => .missing
  | .inappropriateType .. => .missing
  | .permissionDenied _ number reason => .undetermined ⟨number.toNat, reason⟩
  | .invalidArgument _ number reason =>
    -- A chain of links that leads nowhere counts as no file.
    if number = 40 then .missing else .undetermined ⟨number.toNat, reason⟩
  | error => .undetermined ⟨0, toString error⟩

/-- What is found at a path, which is followed before the file is read. -/
def lookUp (path : FilePath) : IO FileState := do
  try
    let _ ← IO.FS.realPath path.toString
  catch error =>
    return stateOfError error
  try
    return .content (← IO.FS.readBinFile path.toString).toList
  catch _ =>
    return .unreadable

/-- The environment variables that settings look at. -/
def readEnvironment : IO (List (String × String)) := do
  [Settings.defaultSchemeVariable, Settings.logLevelVariable].filterMapM fun name => do
    return (← IO.getEnv name).map fun value => (name, value)

/-- Runs a command line and gives its exit code. -/
def runCommandLine (words : List Text) : IO UInt32 := do
  let state ← match Request.read Shell.parser words with
    | .read { settingsPath? := some path, .. } => lookUp (FilePath.ofString path)
    | _ => pure .missing
  match run Shell.host (fun _ => state) (← readEnvironment) words with
  | .misused =>
    usage.forM fun line => IO.eprintln line
    return 2
  | .help =>
    usage.forM fun line => IO.println line
    return 0
  | .finished report =>
    report.output.forM fun output =>
      match output with
      | .line text => IO.println (Shell.echo text)
      | .table _ lines => lines.forM fun line => IO.println line
    report.log.forM fun line => IO.eprintln line
    report.complaint.forM fun line => IO.eprintln (Shell.echo line)
    return UInt32.ofNat report.exitCode

end VersionOrder

/-- Runs the command line that the arguments make up. -/
def main (arguments : List String) : IO UInt32 :=
  VersionOrder.runCommandLine (arguments.map String.toList)
