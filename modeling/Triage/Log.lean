import Triage.Log.Layout
import Triage.Log.Rotation

/-!
# Logging

Records below the level of the log are dropped. Debug messages and information go to the output unless
the log is quiet, warnings and errors to the error output, and all of them to the log file if there is
one. A log that is not set up shows only the bare text of warnings and errors.
-/

namespace Triage

/-- Where the records go. -/
structure Sinks where
  /-- Nothing below warnings goes to the console. -/
  quiet : Bool
  file : Option LogFile
deriving Repr, DecidableEq

structure Log where
  /-- The least level that is logged. -/
  level : Int
  sinks : Option Sinks
  /-- What the program is working on. -/
  context : String
deriving Repr, DecidableEq

namespace Log

def standardContext : String := "issueflow"

/-- The log before it is set up. -/
def initial : Log := ⟨Level.warning.number, none, standardContext⟩

/-! ## Context -/

/-- The context of a repository and one of its issues. -/
def contextOf (repo : Option String) (issue : Option Int) : String :=
  match repo.filter (· != "") with
  | none => standardContext
  | some repo => (issue.map fun n => s!"{repo}#{n}").getD repo

def setContext (log : Log) (repo : Option String) (issue : Option Int) : Log :=
  { log with context := contextOf repo issue }

def clearContext (log : Log) : Log := { log with context := standardContext }

/-! ## Setting up -/

/-- The levels by name, with their second names. -/
def levels : List (String × Int) :=
  Level.all.map (fun l => (l.name, l.number)) ++ [("WARN", 30), ("FATAL", 50), ("NOTSET", 0)]

/-- The level of a name, in any case; of a name that is none and without a name it is that of
information. -/
def levelNamed (name : Option String) : Int :=
  (levels.lookup (Text.upper (name.getD "INFO"))).getD Level.info.number

/-- Sets a log up anew; the context stays. Without a file there is a fault if one was wanted. -/
def setUp (cwd : Path) (levelName : Option String) (file : String) (size backups : Nat) (quiet : Bool)
    (log : Log) (t : FileTree) : Log × FileTree × Option AccessFault :=
  let level := levelNamed levelName
  if file == "" then ({ log with level, sinks := some ⟨quiet, none⟩ }, t, none)
  else
    let (t, opened) := LogFile.open? cwd file size backups t
    match opened with
    | .error fault => ({ log with level, sinks := some ⟨quiet, none⟩ }, t, some fault)
    | .ok f => ({ log with level, sinks := some ⟨quiet, some f⟩ }, t, none)

/-- The line about a log file that cannot be written. -/
def fileFaultLine (fault : AccessFault) : String :=
  "[logger] Failed to create file handler: " ++ fault.message ++ "\n"

def isDebug (log : Log) : Bool := log.level ≤ Level.debug.number

/-! ## Records -/

/-- The name under which a part of the program is known to the log. -/
def nameOf (part : String) : String := if part == "" then "root" else part

/-- Whether records of a level are logged at all; only levels above zero are. -/
def admits (log : Log) (level : Int) : Bool := 0 < level && log.level ≤ level

/-- The lines that a record adds to the output and to the error output, and the files after it. -/
structure Effect where
  out : String
  err : String
  tree : FileTree

/-- A text if a condition holds. -/
def only (condition : Bool) (s : String) : String := if condition then s else ""

def emit (log : Log) (r : Log.Record) (t : FileTree) : Effect :=
  if !log.admits r.level then ⟨"", "", t⟩
  else
    let grave := Level.warning.number ≤ r.level
    match log.sinks with
    | none => ⟨"", only grave (r.text ++ "\n"), t⟩
    | some sinks =>
      let line := r.line log.context .standard
      let shown := r.paint line ++ "\n"
      let usual := Level.debug.number ≤ r.level
      ⟨only (!sinks.quiet && usual && !grave) shown, only grave shown,
        match sinks.file with
        | some f => if usual then f.write r.time (line ++ "\n") t else t
        | none => t⟩

end Log

end Triage
