import Triage.Sla

/-!
# Reports

A report sums up the open issues of a project: how many there are of each status, priority and type, how
many are blocked, how old they are, which are overdue, a score of health, and what should be done.
-/

namespace Triage

structure Report (α : Type) where
  totalOpen : Nat
  totalClosed : Int
  byStatus : Table Nat
  byPriority : Table Nat
  byType : Table Nat
  blocked : Nat
  /-- In days, with one decimal place. -/
  averageAge : α
  health : Int
  generatedAt : Time.Moment
  breaches : List (Standing α)
  recommendations : List String

namespace Report

variable {α : Type} [Quantity α]

/-- What issues without a label of a category are counted under. -/
def unlabeled : String := "unlabeled"

/-- The number of issues of the two highest priorities above which there is a recommendation. -/
def criticalLimit : Nat := 5

/-! ## Counting -/

/-- The short name of the first defined label of a category on an issue. -/
def shortLabel (p : Policy) (c : Category) (i : Issue) : String :=
  (Order.leastBy? (p.group c).labels.position (i.labels.names.filterMap (p.matchLabel? c))).getD unlabeled

def countOf (counts : Table Nat) (key : String) : Nat := (counts.get? key).getD 0

/-- How often each key occurs, in the order in which they come. -/
def count (keys : List String) : Table Nat :=
  keys.foldl (fun counts key => counts.put key (countOf counts key + 1)) ∅

/-- The label of blocked issues, if it is defined. -/
def blockedLabel? (p : Policy) : Option String :=
  if p.labels.workflow.defines blockedMark then some (p.fullLabel .workflow blockedMark) else none

def countBlocked (p : Policy) (issues : List Issue) : Nat :=
  match blockedLabel? p with
  | none => 0
  | some label => issues.countP fun i => decide (label ∈ i.labels)

def meanAge (now : Time.Moment) (issues : List Issue) : α :=
  if issues.isEmpty then Quantity.ofNat 0
  else Quantity.sum (issues.map fun i => Quantity.days (i.age now)) / Quantity.ofNat issues.length

/-- The points that a given average age costs. -/
def agePenalty (average : α) : Int :=
  if Quantity.less (Quantity.ofNat 30) average then 20
  else if Quantity.less (Quantity.ofNat 14) average then 10
  else 0

/-- The score of health from 0 to 100: a blocked issue costs 5 points, one of the top priority 10. -/
def healthScore (blocked top : Int) (average : α) : Int :=
  max 0 (min 100 (100 - 5 * blocked - 10 * top - agePenalty average))

/-! ## Recommendations -/

def adviceOn (condition : Bool) (advice : String) : List String := if condition then [advice] else []

def advice (r : Report α) : List String :=
  let noStatus := countOf r.byStatus unlabeled
  let noPriority := countOf r.byPriority unlabeled
  let critical := countOf r.byPriority "P0" + countOf r.byPriority "P1"
  adviceOn (r.blocked != 0) s!"{r.blocked} issue(s) are marked blocked; unblock or re-plan them"
  ++ adviceOn (!r.breaches.isEmpty)
      s!"{r.breaches.length} issue(s) are past their SLA; handle them first"
  ++ adviceOn (noStatus != 0) s!"{noStatus} issue(s) have no status label"
  ++ adviceOn (noPriority != 0) s!"{noPriority} issue(s) have no priority label; triage them"
  ++ adviceOn (criticalLimit < critical)
      s!"{critical} open P0/P1 issues; consider moving capacity to high-priority work"
  ++ adviceOn (Quantity.less (Quantity.ofNat 30) r.averageAge)
      s!"Average issue age is {Quantity.fixed 1 r.averageAge} days; review stale issues"
  ++ adviceOn (r.totalOpen != 0 && r.totalClosed == 0)
      "No issues were closed in this period; check progress"

def recommend (r : Report α) : List String :=
  let all := advice r
  if all.isEmpty then ["Workflow is healthy"] else all

/-! ## Building -/

/-- The report on the open ones of some issues. -/
def build (p : Policy) (closed : Int) (now : Time.Moment) (issues : List Issue) : Run (Report α) := do
  let issues ← (Issue.openOnes issues : Except Fault (List Issue))
  let byPriority := count (issues.map (shortLabel p .priority))
  let blocked := countBlocked p issues
  let average : α := meanAge now issues
  let standings ← Sla.evaluate p none now issues
  let draft : Report α := {
    totalOpen := issues.length
    totalClosed := closed
    byStatus := count (issues.map (shortLabel p .status))
    byPriority
    byType := count (issues.map (shortLabel p .type))
    blocked
    averageAge := Quantity.round 1 average
    health := healthScore blocked (countOf byPriority topPriority) average
    generatedAt := now
    breaches := standings.filter (·.urgency == .blocked)
    recommendations := [] }
  Run.note .debug .report s!"Report built: {draft.totalOpen} open, health {draft.health}"
  return { draft with recommendations := recommend draft }

/-! ## Writing -/

/-- The rows of counts, the largest first, and by name among equal ones. -/
def rows (counts : Table Nat) : List (String × Nat) :=
  Order.sort (fun a b => b.2 < a.2 || (a.2 == b.2 && decide (a.1 < b.1))) counts.entries

def table (title : String) (counts : Table Nat) : List String :=
  ["### " ++ title, "", "| Label | Issues |", "|---|---|"]
    ++ (rows counts).map (fun (name, count) => s!"| {name} | {count} |") ++ [""]

def breachTable (breaches : List (Standing α)) : List String :=
  if breaches.isEmpty then []
  else ["### Past SLA", "", "| Issue | Priority | Hours over |", "|---|---|---|"]
    ++ breaches.map (fun b =>
      s!"| #{b.number} {b.title.display} | {b.priority} | {Quantity.fixed 1 b.exceeded} |") ++ [""]

def heading (repo : Option String) : String :=
  match repo.filter (· != "") with
  | some repo => "## Workflow report: " ++ repo
  | none => "## Workflow report"

def lines (r : Report α) (repo : Option String) : List String :=
  [heading repo, "", s!"Generated {r.generatedAt.minuteText} UTC", "",
    s!"- Open issues: {r.totalOpen}", s!"- Closed issues: {r.totalClosed}", s!"- Blocked: {r.blocked}",
    s!"- Average age: {Quantity.fixed 1 r.averageAge} days", s!"- Health score: {r.health}/100", ""]
  ++ table "By status" r.byStatus ++ table "By priority" r.byPriority ++ table "By type" r.byType
  ++ breachTable r.breaches
  ++ ["### Recommendations", ""] ++ r.recommendations.map ("- " ++ ·)

/-- The report as a document. -/
def markdown (r : Report α) (repo : Option String) : String :=
  "\n".intercalate (lines r repo) ++ "\n"

end Report

end Triage
