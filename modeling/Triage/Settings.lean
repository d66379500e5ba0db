import Triage.Checked
import Triage.FileTree
import Triage.Note
import Triage.Text.Lines

/-!
# Settings

The settings say where the policy document is, how to log, and whether one time holds for all
priorities. They come as texts under keys: from the lines of a settings file if there is one, otherwise
from the variables of the environment. Blank values count as absent, and all invalid ones are reported
together.
-/

namespace Triage

structure Settings where
  document : String
  level : Level
  /-- The path of the log file; none is written if it is empty. -/
  logFile : String
  /-- The number of octets that the log file stays below. -/
  logSize : Nat
  /-- The number of older log files that are kept. -/
  logBackups : Nat
  /-- Hours after which an issue of any priority is overdue. -/
  threshold : Option Float

namespace Settings

def standard : Settings where
  document := ".gitea/issue-workflow.yaml"
  level := .info
  logFile := ""
  logSize := 10 * 1024 * 1024
  logBackups := 5
  threshold := none

/-! ## The settings file -/

/-- Takes a mark of quotation off a value that both starts and ends with it. -/
def unquote (value : List Char) : List Char :=
  let quotedBy (mark : Char) : Bool := value.head? == some mark && value.getLast? == some mark
  if quotedBy '"' || quotedBy '\'' then value.tail.dropLast else value

/-- The key and the value of a line: what stands before and behind the first equals sign, without the
blanks around. Other lines and those that start with `#` have none. -/
def entryOf? (line : List Char) : Option (String × String) :=
  let line := Text.trimBy Text.isBlank line
  if line.head? == some '#' || !line.contains '=' then none
  else
    let key := Text.trimBy Text.isBlank (line.takeWhile (· != '='))
    let value := Text.trimBy Text.isBlank (line.dropWhile (· != '=')).tail
    some (String.ofList key, String.ofList (unquote value))

/-- The entries of a settings file; of equal keys the last value counts. -/
def entries (text : String) : Table String := .ofList ((Text.lines text).filterMap entryOf?)

/-! ## Reading values -/

/-- The value under a key without the blanks around it, empty if there is none. -/
def valueOf (values : Table String) (key : String) : String := Text.strip ((values.get? key).getD "")

def readLevel (values : Table String) : Checked SettingProblem Level :=
  let name := Text.upper (valueOf values "LOG_LEVEL")
  if name == "" then pure standard.level
  else match Level.ofName? name with
    | some level => pure level
    | none => .flawed (.level name) standard.level

/-- Hours are positive; a value that is no number is not told from one. -/
def readThreshold (values : Table String) : Checked SettingProblem (Option Float) :=
  let key := "SLA_THRESHOLD_HOURS"
  let raw := valueOf values key
  if raw == "" then pure none
  else match Decimal.float? raw with
    | none => .flawed (.notNumber key raw) none
    | some hours => if hours ≤ 0 then .flawed (.notPositive key raw) none else pure (some hours)

def readCount (values : Table String) (key : String) (default : Nat) : Checked SettingProblem Nat :=
  let raw := valueOf values key
  if raw == "" then pure default
  else match Decimal.integer 10 raw with
    | .error _ => .flawed (.notWhole key raw) default
    | .ok (.ofNat n) => pure n
    | .ok (.negSucc _) => .flawed (.negative key raw) default

/-- The value under a key, or another one if it is blank. -/
def textOr (values : Table String) (key default : String) : String :=
  let value := valueOf values key
  if value == "" then default else value

/-- The settings with all that is wrong with them. -/
def ofTable (values : Table String) : Checked SettingProblem Settings := do
  let level ← readLevel values
  let threshold ← readThreshold values
  let logSize ← readCount values "LOG_SIZE" standard.logSize
  let logBackups ← readCount values "LOG_BACKUPS" standard.logBackups
  return {
    level, threshold, logSize, logBackups
    document := textOr values "WORKFLOW_CONFIG_PATH" standard.document
    logFile := valueOf values "LOG_FILE" }

/-- The settings from a source, which faults name. -/
def ofSource (source : String) (values : Table String) : Except Fault Settings :=
  let checked := ofTable values
  if checked.problems.isEmpty then .ok checked.value else .error (.settings source checked.problems)

/-! ## Loading -/

/-- The place of the settings file in the working directory. -/
def fileName : Path := [".issueflow", "config"]

/-- The octets of a settings file that are read at a time. -/
def pieceSize : Nat := 8192

/-- The settings of the settings file, if it is there. -/
def ofFile? (cwd : Path) (tree : FileTree) : Option (Except Fault Settings) :=
  let written := Path.text (cwd ++ fileName)
  match tree.find cwd written with
  | .error _ => none
  | .ok _ => some do
    let bytes ← (tree.read cwd written).mapError .access
    let text ← (Text.Utf8.decodePieces pieceSize bytes).mapError .decoding
    ofSource written (entries text)

/-- The settings, and the environment as it is left: the settings file sets the level of logging. -/
def load (cwd : Path) (tree : FileTree) (environment : Table String) :
    Except Fault Settings × Table String :=
  match ofFile? cwd tree with
  | none => (ofSource "environment" environment, environment)
  | some (.error fault) => (.error fault, environment)
  | some (.ok settings) => (.ok settings, environment.put "LOG_LEVEL" settings.level.name)

end Settings

end Triage
