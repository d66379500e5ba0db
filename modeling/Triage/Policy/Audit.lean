import Triage.Note
import Triage.Text.Case
import Triage.Text.Quoted

/-!
# Audit of a policy

A policy can be well formed and still refer to labels that it does not define. Such defects keep the
automation from running; warnings point at what works but is probably not meant.
-/

namespace Triage

inductive Defect where
  | emptyCategory (category : Category)
  | columnStatus (column mapsTo : String)
  | slaPriority (priority : String)
  | rulePriority (place : Nat) (field priority : String)
deriving Repr, DecidableEq

inductive Warning where
  | emptyCategory (category : Category)
  | repeatedLabel (name first second : String)
  | noColumns
  | repeatedColumn (name : String)
  | noBacklog
  | standardSla (priority : String) (hours : Nat)
  | firesAtOnce (place : Nat) (days : Int)
  | defaultPriority (priority : String)
deriving Repr, DecidableEq

def rulePath (place : Nat) : String := s!"automation.priority_escalation.rules[{place}]"

namespace Defect

def message : Defect → String
  | .emptyCategory category => s!"labels.{category.name} must define at least one label"
  | .columnStatus column mapsTo =>
    s!"board column {Text.quoted column} maps_to {Text.quoted mapsTo}, "
      ++ "which is not a labels.status entry"
  | .slaPriority priority =>
    "automation.blocked_detection.sla references undefined priority " ++ Text.quoted priority
  | .rulePriority place field priority =>
    s!"{rulePath place}.{field} references undefined priority {Text.quoted priority}"

end Defect

namespace Warning

def message : Warning → String
  | .emptyCategory category => s!"labels.{category.name} is empty"
  | .repeatedLabel name first second =>
    s!"label {Text.quoted name} is defined by both {first} and {second}"
  | .noColumns => "board.columns is empty; no board columns will be synced"
  | .repeatedColumn name => s!"board column {Text.quoted name} is listed more than once"
  | .noBacklog => "board has no Backlog column"
  | .standardSla priority hours =>
    s!"priority {Text.quoted priority} has no SLA configured; using the default of {hours} hours"
  | .firesAtOnce place days => s!"{rulePath place}.after_days is {days}; rule fires immediately"
  | .defaultPriority priority =>
    s!"automation.new_issue_defaults.default_priority {Text.quoted priority} is not a defined priority"

end Warning

structure Audit where
  /-- No defect has been found so far. -/
  valid : Bool
  defects : List Defect
  warnings : List Warning
deriving Repr, DecidableEq

namespace Audit

/-- Before anything has been looked at. -/
def start : Audit := ⟨true, [], []⟩

/-- A defect is found; from here on the policy is not valid. -/
def reject (a : Audit) (d : Defect) : Audit := { a with valid := false, defects := a.defects ++ [d] }

def warn (a : Audit) (w : Warning) : Audit := { a with warnings := a.warnings ++ [w] }

end Audit

namespace Policy

def isEmpty (p : Policy) (c : Category) : Bool := (p.group c).labels.isEmpty

def isBacklogName (name : String) : Bool := Text.lower name == backlogStatus

/-- There are columns, but none for the backlog. -/
def lacksBacklog (p : Policy) : Bool :=
  !p.board.columns.isEmpty && (p.columnOfStatus? backlogStatus).isNone
    && !p.board.columns.any fun column => isBacklogName column.name

/-! ## The audit, step by step -/

def auditCategory (p : Policy) (a : Audit) (c : Category) : Audit :=
  if p.isEmpty c then
    if c.isOptional then a.warn (.emptyCategory c) else a.reject (.emptyCategory c)
  else a

/-- Looks for labels whose full name an earlier one has; `seen` holds the names so far with their
categories. -/
def auditLabels (seen : List (String × String)) (a : Audit) : List LabelSpec → Audit
  | [] => a
  | spec :: rest =>
    match seen.lookup spec.name with
    | some first => auditLabels seen (a.warn (.repeatedLabel spec.name first spec.category)) rest
    | none => auditLabels ((spec.name, spec.category) :: seen) a rest

/-- Looks for columns whose name an earlier one has, or that map to no status. -/
def auditColumns (p : Policy) (seen : List String) (a : Audit) : List Column → Audit
  | [] => a
  | column :: rest =>
    let a := if seen.contains column.name then a.warn (.repeatedColumn column.name) else a
    let a := if (p.columnStatus? column).isNone then a.reject (.columnStatus column.name column.mapsTo) else a
    p.auditColumns (seen.insert column.name) a rest

def auditSla (p : Policy) (a : Audit) (priority : String) : Audit :=
  if p.labels.priority.defines priority then a else a.reject (.slaPriority priority)

/-- Looks for priorities for which only the standard hours are known. -/
def auditHours (p : Policy) (a : Audit) (entry : String × LabelDefinition) : Audit :=
  if !p.automation.blocked.sla.contains entry.1 && entry.2.slaHours.isNone then
    a.warn (.standardSla entry.1 (p.slaHours entry.1))
  else a

def auditEndpoint (p : Policy) (place : Nat) (a : Audit) (endpoint : String × String) : Audit :=
  if p.labels.priority.defines endpoint.2 then a else a.reject (.rulePriority place endpoint.1 endpoint.2)

/-- A rule without any delay is pointed out; a number of too many digits cannot be written. -/
def auditDelay (place : Nat) (a : Audit) (days : Int) : Except Fault Audit :=
  if 0 < days then .ok a
  else if Decimal.isTooLong days then .error (.integer .tooLongToWrite)
  else .ok (a.warn (.firesAtOnce place days))

def endpoints (rule : EscalationRule) : List (String × String) :=
  [("from_priority", rule.source), ("to_priority", rule.target)]

def auditRules (p : Policy) (place : Nat) (a : Audit) : List EscalationRule → Except Fault Audit
  | [] => .ok a
  | rule :: rest => do
    let a ← auditDelay place ((endpoints rule).foldl (p.auditEndpoint place) a) rule.afterDays
    p.auditRules (place + 1) a rest

def lacksDefault (p : Policy) : Bool :=
  !p.isEmpty .priority && !p.labels.priority.defines p.automation.intake.defaultPriority

/-- Audits a policy and leaves a note about it. -/
def check (p : Policy) : Run Audit := do
  let a := Category.all.foldl p.auditCategory .start
  let a := auditLabels [] a p.allLabels
  let a := if p.board.columns.isEmpty then a.warn .noColumns else a
  let a := p.auditColumns [] a p.board.columns
  let a := if p.lacksBacklog then a.warn .noBacklog else a
  let a := p.automation.blocked.sla.keys.foldl p.auditSla a
  let a := if p.automation.blocked.enabled then p.labels.priority.labels.entries.foldl p.auditHours a else a
  let a ← p.auditRules 0 a p.automation.escalation.rules
  let a := if p.lacksDefault then a.warn (.defaultPriority p.automation.intake.defaultPriority) else a
  Run.note .debug .policy
    s!"Validated config: {a.defects.length} error(s), {a.warnings.length} warning(s)"
  return a

/-! ## What an audit comes to -/

/-- Labels whose full name an earlier one has; `seen` holds the names so far with their categories. -/
def repeatedLabels (seen : List (String × String)) : List LabelSpec → List Warning
  | [] => []
  | spec :: rest =>
    match seen.lookup spec.name with
    | some first => .repeatedLabel spec.name first spec.category :: repeatedLabels seen rest
    | none => repeatedLabels ((spec.name, spec.category) :: seen) rest

/-- Columns whose name an earlier one has. -/
def repeatedColumns (seen : List String) : List Column → List Warning
  | [] => []
  | column :: rest =>
    if seen.contains column.name then .repeatedColumn column.name :: repeatedColumns seen rest
    else repeatedColumns (column.name :: seen) rest

def ruleDefects (p : Policy) : Nat → List EscalationRule → List Defect
  | _, [] => []
  | place, rule :: rest =>
    ((endpoints rule).filterMap fun (field, priority) =>
      if p.labels.priority.defines priority then none else some (.rulePriority place field priority))
    ++ p.ruleDefects (place + 1) rest

def ruleWarnings : Nat → List EscalationRule → List Warning
  | _, [] => []
  | place, rule :: rest =>
    (if rule.afterDays ≤ 0 then [.firesAtOnce place rule.afterDays] else []) ++ ruleWarnings (place + 1) rest

def defects (p : Policy) : List Defect :=
  ((Category.all.filter fun c => p.isEmpty c && !c.isOptional).map .emptyCategory)
  ++ ((p.board.columns.filter fun column => (p.columnStatus? column).isNone).map fun column =>
    .columnStatus column.name column.mapsTo)
  ++ ((p.automation.blocked.sla.keys.filter fun priority => !p.labels.priority.defines priority).map
    .slaPriority)
  ++ p.ruleDefects 0 p.automation.escalation.rules

/-- Priorities for which only the standard hours are known. -/
def standardSlas (p : Policy) : List Warning :=
  if p.automation.blocked.enabled then
    p.labels.priority.labels.entries.filterMap fun (priority, definition) =>
      if !p.automation.blocked.sla.contains priority && definition.slaHours.isNone then
        some (.standardSla priority (p.slaHours priority))
      else none
  else []

def warnings (p : Policy) : List Warning :=
  ((Category.all.filter fun c => p.isEmpty c && c.isOptional).map .emptyCategory)
  ++ repeatedLabels [] p.allLabels
  ++ (if p.board.columns.isEmpty then [.noColumns] else [])
  ++ repeatedColumns [] p.board.columns
  ++ (if p.lacksBacklog then [.noBacklog] else [])
  ++ p.standardSlas
  ++ ruleWarnings 0 p.automation.escalation.rules
  ++ (if p.lacksDefault then [.defaultPriority p.automation.intake.defaultPriority] else [])

def audit (p : Policy) : Audit := ⟨p.defects.isEmpty, p.defects, p.warnings⟩

end Policy

end Triage
