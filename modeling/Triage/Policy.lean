import Triage.Category
import Triage.Number
import Triage.Table
import Triage.Text.Blank

/-!
# Policies

A policy says which labels a project uses, how its board is laid out, and what is to be automated. The
labels of a category have short names; the full name of a label is the lead of its category followed by
the short name. The order in which labels are defined counts: priorities run from the most urgent to the
least, statuses along the board.
-/

namespace Triage

inductive ProjectKind where
  | backend
  | frontend
  | fullstack
  | library
deriving Repr, DecidableEq, Inhabited

namespace ProjectKind

def all : List ProjectKind := [.backend, .frontend, .fullstack, .library]

def name : ProjectKind → String
  | .backend => "backend"
  | .frontend => "frontend"
  | .fullstack => "fullstack"
  | .library => "library"

def ofName? (s : String) : Option ProjectKind := all.find? (·.name == s)

theorem ofName?_name (k : ProjectKind) : ofName? k.name = some k := by cases k <;> rfl

end ProjectKind

structure Project where
  kind : ProjectKind
  language : Option String
  name : Option String
  repo : Option String
deriving Repr, DecidableEq

/-! ## Labels -/

structure LabelDefinition where
  color : String
  description : String
  /-- Hours until an issue of this priority is overdue. -/
  slaHours : Option Nat
deriving Repr, DecidableEq

/-- A label as it should exist on the tracker. -/
structure LabelSpec where
  name : String
  category : String
  color : String
  description : String
deriving Repr, DecidableEq

/-- The labels of one category under their short names. -/
structure LabelGroup where
  /-- What every full name begins with. -/
  lead : String
  labels : Table LabelDefinition

namespace LabelGroup


instance : DecidableEq LabelGroup := fun a b =>
  if lead : a.lead = b.lead then
    if labels : a.labels = b.labels then
      .isTrue (by cases a; cases b; simp_all)
    else .isFalse fun same => labels (congrArg LabelGroup.labels same)
  else .isFalse fun same => lead (congrArg LabelGroup.lead same)

def names (g : LabelGroup) : List String := g.labels.keys

def defines (g : LabelGroup) (short : String) : Bool := g.labels.contains short

def fullName (g : LabelGroup) (short : String) : String := g.lead ++ short

/-- The short name in a full name. With a lead, any name behind it counts, defined or not; without one,
defined names only. -/
def split? (g : LabelGroup) (full : String) : Option String :=
  if g.lead = "" then (if g.defines full then some full else none)
  else Text.after? g.lead full

/-- The short name of a defined label, given its full name. -/
def match? (g : LabelGroup) (full : String) : Option String :=
  (g.split? full).filter g.defines

/-- The label specifications of a group. -/
def specs (category : Category) (g : LabelGroup) : List LabelSpec :=
  g.labels.entries.map fun (short, definition) =>
    ⟨g.fullName short, category.name, definition.color, definition.description⟩

end LabelGroup

structure Taxonomy where
  status : LabelGroup
  priority : LabelGroup
  type : LabelGroup
  area : LabelGroup
  workflow : LabelGroup
deriving DecidableEq

namespace Taxonomy

def group (t : Taxonomy) : Category → LabelGroup
  | .status => t.status
  | .priority => t.priority
  | .type => t.type
  | .area => t.area
  | .workflow => t.workflow

/-- The taxonomy with a given group in each category. -/
def ofGroups (f : Category → LabelGroup) : Taxonomy :=
  ⟨f .status, f .priority, f .type, f .area, f .workflow⟩

@[simp] theorem group_ofGroups (f : Category → LabelGroup) (c : Category) : (ofGroups f).group c = f c := by
  cases c <;> rfl

end Taxonomy

/-! ## Board -/

structure Column where
  name : String
  /-- A status, under its short or full name. -/
  mapsTo : String
deriving Repr, DecidableEq

structure Board where
  name : String
  columns : List Column
deriving Repr, DecidableEq

namespace Board

def standardName : String := "Issue Workflow Board"

def standard : Board := ⟨standardName, []⟩

end Board

/-! ## Automation -/

/-- A sign of a label in the text of an issue: a regular expression with the weight that it adds. -/
structure Trigger where
  pattern : String
  weight : Float
  name : Option String
deriving DecidableEq

namespace Trigger

/-- The name, or the pattern where there is none. -/
def displayName (t : Trigger) : String :=
  match t.name with
  | some name => if name = "" then t.pattern else name
  | none => t.pattern

end Trigger

/-- The triggers of the labels of a category under their short names. -/
abbrev TriggerTable := Table (List Trigger)

structure InferenceSettings where
  enabled : Bool
  /-- The least confidence of a suggestion. -/
  threshold : Float
  /-- Triggers that replace the standard ones, label by label. -/
  overrides : Option (Table TriggerTable)
deriving DecidableEq

structure EscalationRule where
  source : String
  target : String
  /-- The age from which the rule applies. -/
  afterDays : Int
deriving Repr, DecidableEq

structure EscalationSettings where
  enabled : Bool
  rules : List EscalationRule
deriving Repr, DecidableEq

structure BlockedSettings where
  enabled : Bool
  /-- Hours until an issue is overdue, by priority. -/
  sla : Table Number
  /-- The share of that time, counted back from its end, in which there is a warning. -/
  warningRatio : Float
deriving DecidableEq

namespace BlockedSettings

def standardRatio : Float := 0.2

end BlockedSettings

inductive Direction where
  | labelToBoard
  | boardToLabel
  | both
deriving Repr, DecidableEq, Inhabited

namespace Direction

def all : List Direction := [.labelToBoard, .boardToLabel, .both]

def name : Direction → String
  | .labelToBoard => "label-to-board"
  | .boardToLabel => "board-to-label"
  | .both => "both"

def ofName? (s : String) : Option Direction := all.find? (·.name == s)

theorem ofName?_name (d : Direction) : ofName? d.name = some d := by cases d <;> rfl

end Direction

/-- Which of several labels of a category is kept. -/
inductive Resolution where
  | keepFirst
  | keepLast
deriving Repr, DecidableEq, Inhabited

namespace Resolution

def all : List Resolution := [.keepFirst, .keepLast]

def name : Resolution → String
  | .keepFirst => "keep-first"
  | .keepLast => "keep-last"

def ofName? (s : String) : Option Resolution := all.find? (·.name == s)

theorem ofName?_name (r : Resolution) : ofName? r.name = some r := by cases r <;> rfl

end Resolution

structure SyncSettings where
  enabled : Bool
  direction : Direction
  resolution : Resolution
deriving Repr, DecidableEq

structure IntakeSettings where
  /-- New issues go to the backlog. -/
  toBacklog : Bool
  requireType : Bool
  requirePriority : Bool
  defaultPriority : String
deriving Repr, DecidableEq

namespace IntakeSettings

def standard : IntakeSettings := ⟨true, true, false, "P2"⟩

end IntakeSettings

structure Automation where
  inference : InferenceSettings
  escalation : EscalationSettings
  blocked : BlockedSettings
  sync : SyncSettings
  intake : IntakeSettings
deriving DecidableEq

structure Policy where
  project : Project
  labels : Taxonomy
  board : Board
  automation : Automation
deriving DecidableEq

/-! ## Questions to a policy -/

/-- The short names that are known to every policy. -/
def backlogStatus : String := "backlog"

def securityType : String := "security"

def blockedMark : String := "blocked"

/-- The priority that security issues get. -/
def topPriority : String := "P0"

/-- The priority of issues without a defined one. -/
def fallbackPriority : String := "P3"

/-- Hours until an issue is overdue where a policy does not say. -/
def standardSla (priority : String) : Nat :=
  if priority = "P0" then 4 else if priority = "P1" then 24 else if priority = "P2" then 72 else 168

namespace Policy

def group (p : Policy) (c : Category) : LabelGroup := p.labels.group c

/-- The leads of the five categories. -/
def leads (p : Policy) : List (Category × String) := Category.all.map fun c => (c, (p.group c).lead)

/-- All labels, category by category. -/
def allLabels (p : Policy) : List LabelSpec := Category.all.flatMap fun c => (p.group c).specs c

/-- The hours that the labels give a priority. -/
def slaHours (p : Policy) (priority : String) : Nat :=
  ((p.labels.priority.labels.get? priority).bind LabelDefinition.slaHours).getD (standardSla priority)

def priorityNames (p : Policy) : List String := p.labels.priority.names

def fullLabel (p : Policy) (c : Category) (short : String) : String := (p.group c).fullName short

def matchLabel? (p : Policy) (c : Category) (full : String) : Option String := (p.group c).match? full

/-- The status of a column; what it maps to may be a short or a full name, a short one first. -/
def columnStatus? (p : Policy) (column : Column) : Option String :=
  if p.labels.status.defines column.mapsTo then some column.mapsTo
  else p.labels.status.match? column.mapsTo

/-- The first column of a status. -/
def columnOfStatus? (p : Policy) (status : String) : Option Column :=
  p.board.columns.find? fun column => p.columnStatus? column == some status

/-- The status of the first column with a name. -/
def statusOfColumn? (p : Policy) (name : String) : Option String :=
  (p.board.columns.find? (·.name == name)).bind p.columnStatus?

end Policy

end Triage
