import Triage.Program
import Std.Time.DateTime.Timestamp

/-!
# Command line

Looks up the environment, the time and the files that a run can need, runs the program, and puts its output
and its changes of files into effect.
-/

namespace Triage.Main

/-- The variables of the environment that the program reads. -/
def variableNames : List String :=
  ["LOG_LEVEL", "LOG_FILE", "LOG_SIZE", "LOG_BACKUPS", "SLA_THRESHOLD_HOURS", "WORKFLOW_CONFIG_PATH"]

/-- Microseconds from the start of year one to the start of 1970. -/
def epoch : Int := 719162 * 86400 * 1000000

def currentMoment : IO Time.Moment := do
  let t ← Std.Time.Timestamp.now
  return .ofInstant (epoch + t.val.second.val * 1000000 + t.val.nano.val / 1000)

def environment : IO (Table String) := do
  let values ← variableNames.filterMapM fun name => do
    return (← IO.getEnv name).map fun value => (name, value)
  return .ofList values

/-- The part of the file tree that holds some paths. -/
def look (paths : List Path) : IO FileTree := do
  let base ← IO.currentDir
  paths.eraseDups.foldlM (fun tree path => do
    if path.isEmpty then return tree
    let here := base / path.text
    if ← here.isDir then return tree.put path .directory
    else if ← here.pathExists then return tree.put path (.file (← IO.FS.readBinFile here).toList)
    else return tree) .empty

/-- Makes the files on disk what they are in the second tree, given that they are as in the first. -/
def store (before after : FileTree) : IO Unit := do
  let base ← IO.currentDir
  let changed := after.entries.filter fun e => before.get? e.1 != some e.2
  for (path, entry) in changed.mergeSort fun a b => a.1.length ≤ b.1.length do
    match entry with
    | .directory => IO.FS.createDirAll (base / path.text)
    | .file bytes => IO.FS.writeBinFile (base / path.text) ⟨bytes.toArray⟩
  for (path, _) in before.entries do
    if (after.get? path).isNone then IO.FS.removeFile (base / path.text)

/-- Runs the program and puts into effect what it did. -/
def perform (arguments : List String) : IO UInt32 := do
  let cwd := Path.names (← IO.currentDir).toString
  let here : Surroundings := ⟨cwd, ← environment, ← currentMoment⟩
  let first ← look (Program.places here none arguments)
  let settings := (Settings.load cwd first here.environment).1.toOption
  let tree ← look (Program.places here settings arguments)
  let outcome := Program.run here tree arguments
  store tree outcome.session.tree
  IO.print outcome.session.out
  IO.eprint outcome.session.err
  match outcome.ending with
  | .exit code => return code.toUInt32
  | .crash fault =>
    IO.eprintln ("error: " ++ fault.message)
    return 1

end Triage.Main

def main (arguments : List String) : IO UInt32 := Triage.Main.perform arguments
