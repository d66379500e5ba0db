import Triage.Command.Execution

/-!
# The program

A run of the program reads its arguments and settings, sets up the log and carries out the command. It
ends with an exit code, or with a fault that it has no words for.
-/

namespace Triage

inductive Ending where
  | exit (code : Nat)
  | crash (fault : Fault)
deriving Repr, DecidableEq

/-- How a run ended, and what it did. -/
structure Outcome where
  ending : Ending
  session : Session

namespace Program

open Job

/-! ## Before the command -/

/-- One line in place of the help of the program and its commands; the options are not listed. -/
def usageLine (program : String) : String := s!"usage: {program} [options] [arguments]\n"

/-- How a run ends that stops at its arguments. Of what is said about a problem, the line that names it
is kept and the usage above it left out. -/
def stopped (tree : FileTree) : Arguments.Stop → Outcome
  | .help program => ⟨.exit 0, { Session.initial tree with out := usageLine program }⟩
  | .version =>
    ⟨.exit 0, { Session.initial tree with out := s!"{Command.programName} {Command.version}\n" }⟩
  | .problem program problem =>
    ⟨.exit 2, { Session.initial tree with err := s!"{program}: error: {problem.message}\n" }⟩

/-- Sets up the log by the settings. A quiet log leaves the output to the answer. -/
def setUpLog (settings : Settings) (quiet : Bool) : Job Unit := do
  let here ← surroundings
  let s ← session
  let (log, tree, fault) := s.log.setUp here.cwd (here.environment.get? "LOG_LEVEL") settings.logFile
    settings.logSize settings.logBackups quiet s.tree
  modify fun s => { s with log, tree }
  match fault with
  | none => pure ()
  | some f =>
    if f.problem = .zero then fail (.access f)
    else modify fun s => { s with err := s.err ++ Log.fileFaultLine f }

/-! ## After the command -/

/-- The session after lines went to the error output. -/
def told (lines : List String) (s : Session) : Session :=
  { s with err := s.err ++ String.join (lines.map (· ++ "\n")) }

/-- How a run ends that was halted: the user is told why, unless there are no words for it. -/
def explain (here : Surroundings) (s : Session) : Halt → Outcome
  | .rejected => ⟨.exit 1, s⟩
  | .refused message =>
    let s := if s.log.isDebug then noted here ⟨.error, .command, "Command failed"⟩ s else s
    ⟨.exit 1, told [message] s⟩
  | .notJson problem place =>
    ⟨.exit 1, told ["Invalid JSON: " ++ (Json.Fault.malformed problem place).message] s⟩
  | .fault (.policy problems) =>
    ⟨.exit 1, told ("Workflow config error:" :: problems.map fun p => "  " ++ p.message) s⟩
  | .fault (.access ⟨.missing, written⟩) => ⟨.exit 1, told ["File not found: " ++ written] s⟩
  | .fault f => ⟨.crash f, s⟩

/-- The outcome of a job that starts in a session. -/
def finish (here : Surroundings) (s : Session) (job : Job Unit) : Outcome :=
  match job.run here s with
  | (.ok (), s) => ⟨.exit 0, s⟩
  | (.error halt, s) => explain here s halt

/-- A fault of the settings that the user is told. -/
def isReported (f : Fault) : Bool :=
  match f.classOf with
  | .value | .decoding => true
  | _ => false

/-- Carries out a command by the settings. -/
def execute (here : Surroundings) (tree : FileTree) (i : Invocation) : Outcome :=
  let (loaded, environment) := Settings.load here.cwd tree here.environment
  let here := { here with environment }
  match loaded with
  | .ok settings =>
    finish here (.initial tree) do
      setUpLog settings i.json
      i.run settings
  | .error f =>
    if isReported f then
      ⟨.exit 1, { Session.initial tree with err := "Configuration error: " ++ f.message ++ "\n" }⟩
    else ⟨.crash f, .initial tree⟩

/-- A run of the program. -/
def run (here : Surroundings) (tree : FileTree) (arguments : List String) : Outcome :=
  match Invocation.ofArguments arguments with
  | .error stop => stopped tree stop
  | .ok i => execute here tree i

/-! ## Files -/

/-- The places that a run with these arguments and settings can look at: those that the arguments and
settings name, and the log files that were put away. -/
def places (here : Surroundings) (settings : Option Settings) (arguments : List String) : List Path :=
  let values := arguments.flatMap fun a => a :: (Arguments.splitEquals a).2.toList
  let fromSettings := match settings with
    | none => []
    | some settings =>
      let file : LogFile := ⟨Path.resolve here.cwd settings.logFile, 0, 0⟩
      Path.visited here.cwd settings.document ++ Path.visited here.cwd settings.logFile
        ++ (List.range settings.logBackups).map fun i => file.backup (LogFile.dayOf here.now) (i + 1)
  Path.visited here.cwd (Path.text (here.cwd ++ Settings.fileName)) ++ values.flatMap (Path.visited here.cwd) ++ fromSettings

end Program

end Triage
