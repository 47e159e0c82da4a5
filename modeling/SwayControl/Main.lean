import Std.Time.Format
import SwayControl.CommandLine.Program

/-!
The program as it is started from a shell. It gathers what a run needs of its surroundings, and writes
what the run leaves behind; what happens between the two is decided elsewhere. There are no local
sockets to be had here, so a run meets no peers, and every socket that it looks for is missing.
-/

namespace SwayControl

def readEnvironment : IO (List (String × String)) := do
  let bytes ← IO.FS.readBinFile "/proc/self/environ"
  let lines := ((String.fromUTF8? bytes).getD "").splitOn "\x00"
  return lines.filterMap fun line =>
    match line.splitOn "=" with
    | name :: value@(_ :: _) => some (name, "=".intercalate value)
    | _ => none

/-- The home directory that the system's list of accounts has for the user of the process. -/
def readAccount : IO (Option String) := do
  let status ← try IO.FS.readFile "/proc/self/status" catch _ => pure ""
  let accounts ← try IO.FS.readFile "/etc/passwd" catch _ => pure ""
  let user := (status.splitOn "\n").findSome? fun line =>
    match line.splitOn "\t" with
    | "Uid:" :: user :: _ => some user
    | _ => none
  return (accounts.splitOn "\n").findSome? fun line =>
    match line.splitOn ":" with
    | [_, _, owner, _, _, home, _] => if user == some owner then some home else none
    | _ => none

def readText? (path : Path) : IO (Option String) := do
  try return some (← IO.FS.readFile path.text)
  catch _ => return none

/-- The files among some paths, and the directories on the way to them. -/
def gatherFiles (working : Location) (paths : List Path) : IO FileTree := do
  let texts ← paths.mapM readText?
  let found := (paths.zip texts).filterMap fun (path, text) => text.map fun text => (path, text)
  return ⟨found.map fun (path, text) => (path.location working, text),
    working :: found.flatMap fun (path, _) => path.passed working⟩

/-- What surrounds a run on the words of a command line. -/
def gatherSurroundings (arguments : List String) : IO Surroundings := do
  let working := (Path.ofText (← IO.currentDir).toString).parts
  let bare : Surroundings := ⟨← readEnvironment, ⟨[], []⟩, working, ← readAccount,
    Json.usualNesting⟩
  let named := match Invocation.read arguments with
    | .ok invocation => invocation.globals.config
    | .error _ => none
  return { bare with tree := ← gatherFiles working (bare.configCandidates named working) }

/-- The time in the form that the log has it in. -/
def timeText : IO String := do
  let now ← Std.Time.Timestamp.now
  let date := Std.Time.DateTime.ofTimestampWithZone now Std.Time.TimeZone.UTC
  return date.format "uuuu-MM-dd'T'HH:mm:ss.SSSSSS'Z'"

def ProgramRun.write (ran : ProgramRun) : IO Unit := do
  let errors ← IO.getStderr
  ran.journal.records.forM fun record => do
    errors.putStrLn (ran.journal.line (← timeText) record)
  (← IO.getStdout).putStr ran.emission.output
  errors.putStr ran.emission.errors
  ran.escaped.forM fun fault => errors.putStrLn fault.message

end SwayControl

def main (arguments : List String) : IO UInt32 := do
  let surroundings ← SwayControl.gatherSurroundings arguments
  let ran := SwayControl.runProgram surroundings [] arguments
  ran.write
  return ran.emission.status.toUInt32
