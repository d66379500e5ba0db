import Triage.Sla
import Triage.Tracker.Remote

/-!
# Raising priorities

A security issue goes straight to the top priority. Any other issue follows the first rule for its
priority that its age satisfies. Decisions are proposed only, one for an issue at most.
-/

namespace Triage

structure Escalation where
  number : Int
  oldPriority : String
  newPriority : String
  reason : String
  /-- The label to remove, if a label gave the old priority. -/
  oldLabel : Option String
  newLabel : String
  /-- The new label exists on the tracker, as far as its labels are known. -/
  available : Bool
deriving Repr, DecidableEq

namespace Policy

/-- The rules of the policy, or the standard ones. -/
def escalationRules (p : Policy) : List EscalationRule :=
  if p.automation.escalation.rules.isEmpty then standardLadder else p.automation.escalation.rules

/-- An issue with the security label, or with words that tell of a security problem. -/
def hasSecuritySignal (find : Inference.Finder) (p : Policy) (i : Issue) : Bool :=
  (i.labels.names.any fun label => p.matchLabel? .type label == some securityType)
    || find Inference.securityPattern (i.title.display ++ "\n" ++ i.body.display)

end Policy

namespace Escalation

/-- The first rule for a priority that an age in microseconds satisfies. -/
def rule? (α : Type) [Quantity α] (p : Policy) (current : String) (age : Int) : Option EscalationRule :=
  p.escalationRules.find? fun rule =>
    rule.source == current && Quantity.atLeast (Quantity.days age : α) rule.afterDays

/-- The new priority of an issue, and why. The reason names the delay of the rule, which may have too many
digits to be written. -/
def target? (α : Type) [Quantity α] (find : Inference.Finder) (p : Policy) (now : Time.Moment) (i : Issue)
    (current : String) : Except Fault (Option (String × String)) :=
  if current != topPriority && p.hasSecuritySignal find i then
    .ok (some (topPriority, "security auto-escalation"))
  else match rule? α p current (i.age now) with
    | none => .ok none
    | some rule =>
      if Decimal.isTooLong rule.afterDays then .error (.integer .tooLongToWrite)
      else .ok (some (rule.target, s!"exceeded {rule.afterDays} days unresolved"))

/-- The decision about an open issue. -/
def decide? (α : Type) [Quantity α] (find : Inference.Finder) (p : Policy) (known : Option (List Data))
    (now : Time.Moment) (i : Issue) : Run (Option Escalation) := do
  let (oldPriority, oldLabel) ← p.priorityLabel i
  match ← (target? α find p now i oldPriority : Except Fault (Option (String × String))) with
  | none => return none
  | some (newPriority, reason) =>
    let newLabel := p.fullLabel .priority newPriority
    let available := (known.map fun names => names.any fun name => name == .text newLabel).getD true
    return some ⟨i.number, oldPriority, newPriority, reason, oldLabel, newLabel, available⟩

/-- Notes a decision; a dry run only says what would be done. -/
def announce (dryRun : Bool) (d : Escalation) : Run Unit := do
  if !d.available then
    Run.note .warning .sla
      (s!"Label '{d.newLabel}' does not exist on the repository; "
        ++ s!"issue #{d.number} cannot be escalated until it is created")
  let step := s!"#{d.number}: {d.oldPriority} -> {d.newPriority} ({d.reason})"
  Run.note .info .sla (if dryRun then "[dry run] Would escalate " ++ step else "Escalating " ++ step)

def decideAll (α : Type) [Quantity α] (find : Inference.Finder) (p : Policy) (known : Option (List Data))
    (dryRun : Bool) (now : Time.Moment) : List Issue → Run (List Escalation)
  | [] => return []
  | i :: rest => do
    if ← (i.isOpen : Except Fault Bool) then
      let first ← decide? α find p known now i
      match first with
      | some d => announce dryRun d
      | none => pure ()
      return first.toList ++ (← decideAll α find p known dryRun now rest)
    else decideAll α find p known dryRun now rest

/-- The names of labels on the tracker; they have to be hashable. -/
def knownNames : List RemoteLabel → Except Fault (List Data)
  | [] => .ok []
  | label :: rest => do
    if label.name.unhashable then throw (.unhashable label.name.kind)
    else return label.name :: (← knownNames rest)

/-- The decisions about the open ones of some issues, in their order. -/
def decideWith (α : Type) [Quantity α] (find : Inference.Finder) (p : Policy)
    (labels : Option (List RemoteLabel)) (dryRun : Bool) (now : Time.Moment) (issues : List Issue) :
    Run (List Escalation) := do
  if !p.automation.escalation.enabled then
    Run.note .debug .sla "Priority escalation disabled, skipping"
    return []
  else
    let known ← (labels.mapM knownNames : Except Fault (Option (List Data)))
    decideAll α find p known dryRun now issues

/-- The decisions about the open ones of some issues. -/
def decide (p : Policy) (labels : Option (List RemoteLabel)) (dryRun : Bool) (now : Time.Moment)
    (issues : List Issue) : Run (List Escalation) :=
  decideWith Float Pattern.found p labels dryRun now issues

end Escalation

end Triage
