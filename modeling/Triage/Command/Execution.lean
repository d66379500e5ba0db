import Triage.Command
import Triage.Command.Answer
import Triage.Command.Snapshot
import Triage.Json.Writing
import Triage.Policy.Writing

/-!
# Carrying out commands

Every command but `init` reads the policy document first. All that look at snapshots refuse a policy
with defects before they read one. Answers are printed; nothing but `init` writes a file.
-/

namespace Triage

open Job

namespace Policy

/-- The policy of the document at a written path; from then on the log names its repository. -/
def load (path : String) : Job Policy := do
  note .debug s!"Loading workflow config from {path}"
  let p ← perform (ofText (← readText (Path.tidy path)))
  modify fun s => { s with log := s.log.setContext p.project.repo none }
  return p

/-- What the user is told about a policy with defects. -/
def refusal (path : String) (a : Audit) : String :=
  s!"{path} has validation errors; run 'issueflow validate' for details:\n  "
    ++ "\n  ".intercalate (a.defects.map Defect.message)

def warnAll : List Warning → Job Unit
  | [] => pure ()
  | w :: rest => do
    note .warning s!"Config warning: {w.message}"
    warnAll rest

/-- The policy of a document, provided that it has no defects. -/
def loadValid (path : String) : Job Policy := do
  let p ← load path
  let a ← perform p.check
  warnAll a.warnings
  if a.valid then return p else refuse (refusal path a)

end Policy

namespace Invocation

/-- The path of the policy document; a blank one in the arguments counts as none. -/
def documentPath (i : Invocation) (settings : Settings) : String :=
  (i.document.filter (· != "")).getD settings.document

/-- Prints a value as JSON. -/
def printJson (value : Data) : Job Unit := printLine (Json.write value)

/-- Prints a value as JSON, or else lines. -/
def answer (i : Invocation) (value : Data) (lines : List String) : Job Unit :=
  if i.json then printJson value else printLines lines

/-- The lines of a list of results, or a line that there are none. -/
def orNone (none : String) (results : List String) : List String :=
  if results.isEmpty then [none] else results

/-! ## The commands -/

/-- Writes a starter policy, unless there is a document already. -/
def runInit (i : Invocation) (settings : Settings) (kind : ProjectKind) (language repo output : Option String)
    (force : Bool) : Job Unit := do
  let path := Path.tidy ((output.filter (· != "")).getD (i.documentPath settings))
  if (← hasFile path) && !force then
    refuse s!"{path} already exists; use --force to overwrite"
  else
    let p ← ofExcept (Policy.starterNamed kind.name language none repo)
    makeDirectories (Path.parent path)
    writeText path (← ofExcept p.toText)
    note .info s!"Generated default {kind.name} workflow at {path}"
    i.answer (.record [("path", .text path), ("labels", .int p.allLabels.length)]) [s!"Created {path}"]

def runValidate (i : Invocation) (settings : Settings) : Job Unit := do
  let path := i.documentPath settings
  let a ← perform (← Policy.load path).check
  if i.json then printJson a.toData
  else
    printLines a.lines
    if a.valid then
      note .info s!"Valid config: {path}"
      printLine s!"{path}: OK ({a.warnings.length} warning(s))"
  if a.valid then pure () else halt .rejected

/-- The issues to look at: those of a number, the first of which has to be open, or all open ones. -/
def selectIssues (path : String) (number : Option Int) (issues : List Issue) : Job (List Issue) :=
  match number with
  | none => ofExcept (Issue.openOnes issues)
  | some n =>
    match issues.filter fun issue => issue.number == n with
    | [] => refuse s!"Issue #{n} not found in {path}"
    | first :: rest => do
      if ← ofExcept first.isOpen then return first :: rest else refuse s!"Issue #{n} is closed"

def adviseAll (p : Policy) : List Issue → Job (List Advice)
  | [] => return []
  | issue :: rest => do
    let recommended ← perform (Inference.recommend p issue)
    let first : Advice := ⟨issue.number, issue.title, recommended, Inference.missing p issue⟩
    return first :: (← adviseAll p rest)

def runInfer (i : Invocation) (settings : Settings) (path : String) (number : Option Int) : Job Unit := do
  let p ← Policy.loadValid (i.documentPath settings)
  if !p.automation.inference.enabled then
    note .warning "Label inference is disabled in the workflow config; skipping"
  else
    let issues ← selectIssues path number (← Snapshot.load Snapshot.issues path)
    let advice ← adviseAll p issues
    i.answer (.list (advice.map Advice.toData)) (orNone "No open issues." (advice.flatMap Advice.lines))

def runCheckBlocked (i : Invocation) (settings : Settings) (path : String) (threshold : Option Float) :
    Job Unit := do
  let p ← Policy.loadValid (i.documentPath settings)
  if !p.automation.blocked.enabled then
    note .warning "Blocked detection is disabled in the workflow config; skipping"
  else
    let hours := (threshold.or settings.threshold).map Number.float
    let issues ← Snapshot.load Snapshot.issues path
    let standings ← perform (Sla.evaluate p hours (← surroundings).now issues)
    i.answer (.list (standings.map Standing.toData))
      (if standings.isEmpty then ["No open issues."] else Standing.heading :: standings.map Standing.line)

def runEscalate (i : Invocation) (settings : Settings) (path : String) (labels : Option String)
    (apply : Bool) : Job Unit := do
  let p ← Policy.loadValid (i.documentPath settings)
  let known ← match labels.filter (· != "") with
    | some labels => do pure (some (← Snapshot.load Snapshot.labels labels))
    | none => pure none
  let issues ← Snapshot.load Snapshot.issues path
  let decisions ← perform (Escalation.decide p known (!apply) (← surroundings).now issues)
  i.answer (.record [("apply", .bool apply), ("decisions", .list (decisions.map Escalation.toData))])
    (orNone "No escalations needed." (decisions.map (Escalation.line apply)))

def runPlanLabels (i : Invocation) (settings : Settings) (path : String) : Job Unit := do
  let p ← Policy.loadValid (i.documentPath settings)
  let remote ← Snapshot.load Snapshot.labels path
  let plan ← perform (Plan.ofLabels p.allLabels remote)
  i.answer (plan.toData LabelSpec.toData) plan.labelLines

def runPlanBoard (i : Invocation) (settings : Settings) (path : String) : Job Unit := do
  let p ← Policy.loadValid (i.documentPath settings)
  let remote ← Snapshot.load Snapshot.columns path
  let plan ← perform (Plan.ofColumns p.board.columns remote)
  i.answer (plan.toData Column.toData) plan.columnLines

def runReport (i : Invocation) (settings : Settings) (path : String) (repo : Option String) (closed : Int) :
    Job Unit := do
  let p ← Policy.loadValid (i.documentPath settings)
  let issues ← Snapshot.load Snapshot.issues path
  let r : Report Float ← perform (Report.build p closed (← surroundings).now issues)
  if i.json then printJson r.toData
  else print (r.markdown ((repo.filter (· != "")).or p.project.repo))

/-- Carries out a command. -/
def run (i : Invocation) (settings : Settings) : Job Unit :=
  match i.command with
  | .init kind language repo output force => i.runInit settings kind language repo output force
  | .validate => i.runValidate settings
  | .infer issues number => i.runInfer settings issues number
  | .checkBlocked issues threshold => i.runCheckBlocked settings issues threshold
  | .escalate issues labels apply => i.runEscalate settings issues labels apply
  | .planLabels labels => i.runPlanLabels settings labels
  | .planBoard columns => i.runPlanBoard settings columns
  | .report issues repo closed => i.runReport settings issues repo closed

end Invocation

end Triage
