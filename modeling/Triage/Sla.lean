import Triage.Inference
import Triage.Policy.Starter

/-!
# Overdue issues

Every open issue has a priority, and every priority a number of hours after which an issue that nobody
has touched is overdue. An issue past that time is blocked; in the last share of the time there is a
warning. The issues are listed with the most urgent first.
-/

namespace Triage

inductive Urgency where
  | blocked
  | warning
  | ok
deriving Repr, DecidableEq, Inhabited

namespace Urgency

def name : Urgency → String
  | .blocked => "blocked"
  | .warning => "warning"
  | .ok => "ok"

/-- The place in the order of urgency, most urgent first. -/
def rank : Urgency → Nat
  | .blocked => 0
  | .warning => 1
  | .ok => 2

end Urgency

/-- How an issue stands against its time. -/
structure Standing (α : Type) where
  number : Int
  title : Data
  priority : String
  /-- Hours since the issue was last touched. -/
  age : α
  /-- Hours until an issue of this priority is overdue. -/
  sla : Number
  /-- The age less that time. -/
  exceeded : α
  urgency : Urgency
  reason : String

namespace Policy

/-- The labels of the priority category on an issue, as short names with the full ones. -/
def priorityLabels (p : Policy) (i : Issue) : List (String × String) :=
  i.labels.sorted.filterMap fun label => (p.labels.priority.split? label).map fun short => (short, label)

/-- The most urgent defined priority on an issue, with its label. -/
def priorityOn? (p : Policy) (i : Issue) : Option (String × String) :=
  Order.leastBy? (fun pair => p.labels.priority.labels.position pair.1)
    ((p.priorityLabels i).filter fun pair => p.labels.priority.defines pair.1)

/-- The priority of an issue and the label that gives it; without a defined one it is the fallback. -/
def priorityLabel (p : Policy) (i : Issue) : Run (String × Option String) := do
  match p.priorityOn? i with
  | some (short, label) => return (short, some label)
  | none =>
    let unknown := (p.priorityLabels i).map Prod.snd
    if !unknown.isEmpty then
      Run.note .warning .sla
        (s!"Issue #{i.number} has undefined priority label(s) " ++ ", ".intercalate unknown
          ++ s!"; treating as {fallbackPriority}")
    return (fallbackPriority, none)

/-- The hours of a priority: a given number, that of the blocked detection, or that of the labels. -/
def resolveSla (p : Policy) (priority : String) (override : Option Number) : Number :=
  match override with
  | some hours => hours
  | none => (p.automation.blocked.sla.get? priority).getD (.int (p.slaHours priority))

end Policy

namespace Sla

variable {α : Type} [Quantity α]

/-- The urgency of an issue that is a number of hours past its time. -/
def classify (exceeded sla ratio : α) : Urgency :=
  if Quantity.less (Quantity.ofNat 0) exceeded then .blocked
  else if Quantity.less (-ratio * sla) exceeded then .warning
  else .ok

def describe (urgency : Urgency) (priority : String) (age exceeded : α) (sla : Number) : String :=
  let past := Quantity.fixed 1
  match urgency with
  | .blocked =>
    s!"no activity for {past age}h, {past exceeded}h past the {priority} SLA of {sla.general}h"
  | .warning => s!"{past (-exceeded)}h left of the {priority} SLA of {sla.general}h"
  | .ok => s!"within the {priority} SLA of {sla.general}h"

/-- How an issue stands, given its priority and the microseconds since it was last touched. -/
def standing (p : Policy) (override : Option Number) (i : Issue) (priority : String) (idle : Int) :
    Except Fault (Standing α) :=
  let sla := p.resolveSla priority override
  match Quantity.ofNumber? sla with
  | none => .error .tooLarge
  | some hours =>
    let age : α := Quantity.hours idle
    let exceeded := age - hours
    let urgency := classify exceeded hours (Quantity.ofFloat p.automation.blocked.warningRatio)
    .ok {
      number := i.number, title := i.title, priority, age, sla, exceeded, urgency
      reason := describe urgency priority age exceeded sla }

/-- The more urgent comes first, and of equally urgent ones the one further past its time. -/
def before (a b : Standing α) : Bool :=
  a.urgency.rank < b.urgency.rank
    || (a.urgency.rank == b.urgency.rank && Quantity.less b.exceeded a.exceeded)

def inOrder (standings : List (Standing α)) : List (Standing α) :=
  if standings.all fun s => Quantity.comparable s.exceeded then Order.sort before standings
  else Order.sortLoosely before standings

/-- How the open ones of some issues stand, in their order. -/
def standings (p : Policy) (override : Option Number) (now : Time.Moment) :
    List Issue → Run (List (Standing α))
  | [] => return []
  | i :: rest => do
    if ← (i.isOpen : Except Fault Bool) then
      let (priority, _) ← p.priorityLabel i
      let first ← (standing p override i priority (i.idle now) : Except Fault (Standing α))
      return first :: (← standings p override now rest)
    else standings p override now rest

def countOf (urgency : Urgency) (standings : List (Standing α)) : Nat :=
  standings.countP (·.urgency == urgency)

/-- How the open ones of some issues stand, the most urgent first. -/
def evaluate (p : Policy) (override : Option Number) (now : Time.Moment) (issues : List Issue) :
    Run (List (Standing α)) := do
  let sorted := inOrder (← standings p override now issues)
  let blocked := countOf .blocked sorted
  let warning := countOf .warning sorted
  if blocked != 0 || warning != 0 then
    Run.note .info .sla
      s!"SLA check: {blocked} blocked, {warning} warning of {sorted.length} open issue(s)"
  else
    Run.note .debug .sla s!"SLA check: all {sorted.length} open issue(s) within SLA"
  return sorted

end Sla

end Triage
