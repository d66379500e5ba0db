import Triage.Arguments
import Triage.Policy

/-!
# Commands

The commands of the program with their arguments. All of them can be given another policy document, and
asked to answer in a form for machines.
-/

namespace Triage

inductive Verb where
  | init
  | validate
  | infer
  | checkBlocked
  | escalate
  | planLabels
  | planBoard
  | report
deriving Repr, DecidableEq

namespace Verb

def all : List Verb :=
  [.init, .validate, .infer, .checkBlocked, .escalate, .planLabels, .planBoard, .report]

def name : Verb → String
  | .init => "init"
  | .validate => "validate"
  | .infer => "infer"
  | .checkBlocked => "check-blocked"
  | .escalate => "escalate"
  | .planLabels => "plan-labels"
  | .planBoard => "plan-board"
  | .report => "report"

def ofName? (s : String) : Option Verb := all.find? (·.name == s)

end Verb

/-- A command with its arguments. Paths of snapshots are given as they were written. -/
inductive Command where
  | init (kind : ProjectKind) (language repo output : Option String) (force : Bool)
  | validate
  | infer (issues : String) (number : Option Int)
  | checkBlocked (issues : String) (threshold : Option Float)
  | escalate (issues : String) (labels : Option String) (apply : Bool)
  | planLabels (labels : String)
  | planBoard (columns : String)
  | report (issues : String) (repo : Option String) (closed : Int)

/-- A command and what can go with every command. -/
structure Invocation where
  command : Command
  /-- The policy document in place of the one that the settings name. -/
  document : Option String
  /-- The answer is written as JSON. -/
  json : Bool

namespace Command

def programName : String := "issueflow"

def version : String := "0.1.0"

/-! ## Grammar -/

open Arguments (Grammar Parameter Bindings Stop Taking)

def option (names : List String) (label : String) (taking : Taking) : Parameter :=
  ⟨names, label, taking, false⟩

def operand (label : String) : Parameter := ⟨[], label, .text, true⟩

def helpOption : Parameter := option ["-h", "--help"] "help" .help

def issuesOperand : Parameter := operand "ISSUES_JSON"

/-- The options and the operand of a command of its own. -/
def ownParameters : Verb → List Parameter × Option Parameter
  | .init =>
    ([⟨["--type"], "type", .oneOf (ProjectKind.all.map ProjectKind.name), true⟩,
      option ["--language"] "language" .text, option ["--repo"] "repo" .text,
      option ["--output", "-o"] "output" .text, option ["--force"] "force" .nothing], none)
  | .validate => ([], none)
  | .infer => ([option ["--number", "-n"] "number" .whole], some issuesOperand)
  | .checkBlocked => ([option ["--threshold"] "threshold" .real], some issuesOperand)
  | .escalate =>
    ([option ["--labels"] "labels" .text, option ["--apply"] "apply" .nothing], some issuesOperand)
  | .planLabels => ([], some (operand "LABELS_JSON"))
  | .planBoard => ([], some (operand "COLUMNS_JSON"))
  | .report =>
    ([option ["--repo"] "repo" .text, option ["--closed"] "closed" .whole], some issuesOperand)

def grammarOf (verb : Verb) : Grammar where
  program := programName ++ " " ++ verb.name
  options := [helpOption, option ["--config"] "config" .text, option ["--json"] "json" .nothing]
    ++ (ownParameters verb).1
  operand := (ownParameters verb).2

/-- The grammar of the program: a command with all that follows it. -/
def grammar : Grammar where
  program := programName
  options := [helpOption, option ["--version", "-v"] "version" .version]
  operand := some ⟨[], "command", .command (Verb.all.map Verb.name), true⟩

/-! ## Reading -/

/-- The text under a label, empty if there is none. -/
def textAt (b : Bindings) (label : String) : String := (b.text? label).getD ""

/-- The command of a verb with the values that were read for it. -/
def ofBindings (b : Bindings) : Verb → Command
  | .init =>
    .init ((ProjectKind.ofName? (textAt b "type")).getD .backend) (b.text? "language") (b.text? "repo")
      (b.text? "output") (b.flag "force")
  | .validate => .validate
  | .infer => .infer (textAt b "ISSUES_JSON") (b.whole? "number")
  | .checkBlocked => .checkBlocked (textAt b "ISSUES_JSON") (b.real? "threshold")
  | .escalate => .escalate (textAt b "ISSUES_JSON") (b.text? "labels") (b.flag "apply")
  | .planLabels => .planLabels (textAt b "LABELS_JSON")
  | .planBoard => .planBoard (textAt b "COLUMNS_JSON")
  | .report => .report (textAt b "ISSUES_JSON") (b.text? "repo") ((b.whole? "closed").getD 0)

end Command

namespace Invocation

open Arguments (Bindings Stop)

/-- The command that was named, with the arguments behind it. -/
def named? (b : Bindings) : Option (Verb × List String) :=
  match b.lookup "command" with
  | some (.command name rest) => (Verb.ofName? name).map fun verb => (verb, rest)
  | _ => none

/-- Reads the arguments of the program; nothing may be left over. -/
def ofArguments (arguments : List String) : Except Stop Invocation := do
  let outer ← Arguments.read Command.grammar arguments
  match named? outer.bindings with
  | none => throw (.problem Command.programName (.required ["command"]))
  | some (verb, rest) =>
    let inner ← Arguments.read (Command.grammarOf verb) rest
    let extras := outer.extras ++ inner.extras
    if extras.isEmpty then
      return ⟨Command.ofBindings inner.bindings verb, inner.bindings.text? "config",
        inner.bindings.flag "json"⟩
    else throw (.problem Command.programName (.unrecognized extras))

end Invocation

end Triage
