import Triage.Order
import Triage.Policy.Audit
import Triage.Tracker.Issue

/-!
# Labels and columns in agreement

The status label of an issue and the column of its card should say the same. In one direction the label
decides where the card is, in the other the column decides which label the issue carries. An issue with
several labels of a category is brought down to one.
-/

namespace Triage

inductive SyncStep where
  | createCard
  | moveCard
  | addLabel
  | removeLabel
deriving Repr, DecidableEq

namespace SyncStep

def name : SyncStep → String
  | .createCard => "create_card"
  | .moveCard => "move_card"
  | .addLabel => "add_label"
  | .removeLabel => "remove_label"

end SyncStep

structure SyncAction where
  step : SyncStep
  number : Int
  reason : String
  label : Option String
  fromColumn : Option String
  toColumn : Option String
deriving Repr, DecidableEq

namespace Policy

/-- The labels of a category on an issue, in the order in which the policy defines them. -/
def categoryLabels (p : Policy) (i : Issue) (c : Category) : List String :=
  let g := p.group c
  let found := i.labels.names.filterMap fun label =>
    (g.match? label).map fun short => (g.labels.position short, label)
  (Order.sort (fun a b => a.1 < b.1 || (a.1 == b.1 && decide (a.2 < b.2))) found).map Prod.snd

/-- The status label of an issue, the first one in order. -/
def statusLabel? (p : Policy) (i : Issue) : Option String := (p.categoryLabels i .status).head?

/-- The column that a label puts an issue in. -/
def columnOfLabel? (p : Policy) (label : String) : Option Column :=
  ((p.matchLabel? .status label).filter (· != "")).bind p.columnOfStatus?

/-- The label that a column gives an issue. -/
def labelOfColumn? (p : Policy) (column : String) : Option String :=
  ((p.statusOfColumn? column).filter (· != "")).map (p.fullLabel .status)

end Policy

namespace Sync

/-- Where the card goes, given the label. -/
def toBoard (p : Policy) (number : Int) (label column : Option String) : List SyncAction :=
  match label with
  | none => []
  | some label =>
    match p.columnOfLabel? label with
    | none => []
    | some expected =>
      let reason := s!"label {label} places the issue in {expected.name}"
      match column with
      | none => [⟨.createCard, number, reason, none, none, some expected.name⟩]
      | some current =>
        if current = expected.name then []
        else [⟨.moveCard, number, reason, none, some current, some expected.name⟩]

/-- Which labels change, given the column. -/
def toLabel (p : Policy) (number : Int) (label column : Option String) : List SyncAction :=
  match column with
  | none => []
  | some column =>
    match p.labelOfColumn? column with
    | none => []
    | some expected =>
      if label = some expected then []
      else
        (match label with
          | some label => [⟨.removeLabel, number, s!"replaced by {expected}", some label, none, none⟩]
          | none => [])
        ++ [⟨.addLabel, number, s!"card is in column {column}", some expected, none, none⟩]

/-- What brings label and column in line, in a direction. -/
def actionsIn (p : Policy) (i : Issue) (column : Option String) (direction : Direction) : List SyncAction :=
  let label := p.statusLabel? i
  (if direction = .boardToLabel then [] else toBoard p i.number label column)
    ++ (if direction = .labelToBoard then [] else toLabel p i.number label column)

/-- What brings label and column in line; the direction is that of the policy unless one is named, and
nothing is done in an unknown one. -/
def actions (p : Policy) (i : Issue) (column direction : Option String) : List SyncAction :=
  match direction.filter (· != "") with
  | none => actionsIn p i column p.automation.sync.direction
  | some name => match Direction.ofName? name with
    | some direction => actionsIn p i column direction
    | none => []

/-! ## Conflicts -/

/-- The categories of which an issue should carry one label at most. -/
def exclusive : List Category := [.status, .priority]

def conflicts (p : Policy) (i : Issue) : List String :=
  exclusive.filterMap fun c =>
    let labels := p.categoryLabels i c
    if 1 < labels.length then
      some (s!"Issue #{i.number} has multiple {c.name} labels: " ++ ", ".intercalate labels)
    else none

/-- The label that is kept. -/
def kept? (r : Resolution) (labels : List String) : Option String :=
  match r with
  | .keepFirst => labels.head?
  | .keepLast => labels.getLast?

/-- The labels of a category that are removed. -/
def resolveCategory (p : Policy) (i : Issue) (r : Resolution) (c : Category) : List SyncAction :=
  let labels := p.categoryLabels i c
  match kept? r labels with
  | none => []
  | some kept =>
    (labels.filter (· != kept)).map fun label =>
      ⟨.removeLabel, i.number, s!"conflicting {c.name} labels, keeping {kept} ({r.name})", some label,
        none, none⟩

/-- What leaves one label of each exclusive category. -/
def resolveBy (p : Policy) (i : Issue) (r : Resolution) : List SyncAction :=
  exclusive.flatMap (resolveCategory p i r)

/-- What leaves one label of each exclusive category; the way is that of the policy unless one is named. -/
def resolve (p : Policy) (i : Issue) (strategy : Option String) : Except Fault (List SyncAction) :=
  match strategy.filter (· != "") with
  | none => .ok (resolveBy p i p.automation.sync.resolution)
  | some name => match Resolution.ofName? name with
    | some r => .ok (resolveBy p i r)
    | none => .error (.resolution name)

/-! ## The backlog -/

/-- The column of new issues: that of the backlog status, or one with that name. -/
def backlogColumn? (p : Policy) : Option Column :=
  match p.columnOfStatus? backlogStatus with
  | some column => some column
  | none => p.board.columns.find? fun column => Policy.isBacklogName column.name

/-- A new issue goes to the backlog unless it has a status. -/
def goesToBacklog (p : Policy) (i : Issue) : Bool :=
  p.automation.intake.toBacklog && (p.statusLabel? i).isNone

/-! ## Carrying out actions -/

/-- The card and the labels of an issue after an action. -/
def applyAction (state : LabelSet × Option String) (a : SyncAction) : LabelSet × Option String :=
  match a.step, a.label with
  | .addLabel, some label => (state.1.insert label, state.2)
  | .removeLabel, some label => (state.1.erase label, state.2)
  | .createCard, _ | .moveCard, _ => (state.1, a.toColumn)
  | _, none => state

def applyActions (state : LabelSet × Option String) (as : List SyncAction) : LabelSet × Option String :=
  as.foldl applyAction state

end Sync

end Triage
