import Triage.Note
import Triage.Text.Case
import Triage.Tracker.Remote

/-!
# Plans

What has to be created or updated on the tracker so that it has the labels and columns of a policy. Items
are told apart by their exact names; of several with one name only the first counts, on both sides. What
the policy does not know never appears in a plan.
-/

namespace Triage

/-- The fields of a label that can be updated. -/
inductive LabelField where
  | color
  | description
deriving Repr, DecidableEq

namespace LabelField

def name : LabelField → String
  | .color => "color"
  | .description => "description"

end LabelField

structure Plan (α : Type) where
  created : List α
  updated : List α
  skipped : List α
  /-- The fields that differ, for each updated item. -/
  changes : List (String × List LabelField)

namespace Plan

variable {α : Type}

def hasChanges (p : Plan α) : Bool := !p.created.isEmpty || !p.updated.isEmpty

/-- How an item compares with the tracker. -/
inductive Finding where
  | missing
  | differs (fields : List LabelField)
  | same
deriving Repr, DecidableEq

/-- The items with a given finding. -/
def having (p : Finding → Bool) (found : List (α × Finding)) : List α :=
  (found.filter fun entry => p entry.2).map Prod.fst

/-- The plan of items with their findings. -/
def ofFindings (name : α → String) (found : List (α × Finding)) : Plan α where
  created := having (· == .missing) found
  updated := having (fun | .differs _ => true | _ => false) found
  skipped := having (· == .same) found
  changes := found.filterMap fun entry =>
    match entry.2 with
    | .differs fields => some (name entry.1, fields)
    | _ => none

/-- The first item of every name; `seen` holds the names so far. -/
def firstOfEach (name : α → String) (seen : List String) : List α → List α
  | [] => []
  | a :: rest =>
    if seen.contains (name a) then firstOfEach name seen rest
    else a :: firstOfEach name (name a :: seen) rest

/-! ## Labels -/

/-- A color as it is compared: without blanks and marks in front, in lower case. -/
def normalColor (color : String) : String :=
  Text.lower (String.ofList ((Text.trimBy Text.isBlank color.toList).dropWhile (· == '#')))

/-- The color of a label on the tracker as it is compared. -/
def remoteColor : Data → Except Fault String
  | .text s => .ok (normalColor s)
  | value => if value.truthy then .error (.noMember value.kind "strip") else .ok ""

/-- How a label compares with the one on the tracker. -/
def compareLabel (spec : LabelSpec) (existing : RemoteLabel) : Except Fault Finding := do
  let color ← remoteColor existing.color
  let fields := (if color != normalColor spec.color then [LabelField.color] else [])
    ++ (if existing.description.orElse (.text "") == .text spec.description then []
      else [LabelField.description])
  return if fields.isEmpty then .same else .differs fields

def findLabel (remote : List RemoteLabel) (spec : LabelSpec) : Except Fault Finding :=
  match remote.find? (·.name == .text spec.name) with
  | none => .ok .missing
  | some existing => compareLabel spec existing

/-- Names of items on the tracker have to be hashable. -/
def checkNames : List Data → Except Fault Unit
  | [] => .ok ()
  | name :: rest => if name.unhashable then .error (.unhashable name.kind) else checkNames rest

def labelFindings (remote : List RemoteLabel) :
    List LabelSpec → Except Fault (List (LabelSpec × Finding))
  | [] => .ok []
  | spec :: rest => do
    let finding ← findLabel remote spec
    return (spec, finding) :: (← labelFindings remote rest)

/-- The plan that brings the labels on the tracker in line with those desired. -/
def ofLabels (desired : List LabelSpec) (remote : List RemoteLabel) : Run (Plan LabelSpec) := do
  (checkNames (remote.map RemoteLabel.name) : Except Fault Unit)
  let found ← (labelFindings remote (firstOfEach LabelSpec.name [] desired) :
    Except Fault (List (LabelSpec × Finding)))
  let plan := ofFindings LabelSpec.name found
  Run.note .info .board
    (s!"Label sync plan: {plan.created.length} to create, {plan.updated.length} to update, "
      ++ s!"{plan.skipped.length} unchanged")
  return plan

/-! ## Columns -/

/-- A column is never updated: it is there or it is not. -/
def findColumn (remote : List RemoteColumn) (column : Column) : Finding :=
  if remote.any (·.name == .text column.name) then .same else .missing

/-- The plan that brings the columns on the tracker in line with those desired. -/
def ofColumns (desired : List Column) (remote : List RemoteColumn) : Run (Plan Column) := do
  (checkNames (remote.map RemoteColumn.name) : Except Fault Unit)
  let plan := ofFindings Column.name
    ((firstOfEach Column.name [] desired).map fun column => (column, findColumn remote column))
  Run.note .info .board
    s!"Column sync plan: {plan.created.length} to create, {plan.skipped.length} existing"
  return plan

end Plan

end Triage
