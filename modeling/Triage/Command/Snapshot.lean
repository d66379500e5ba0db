import Triage.Command.Job
import Triage.Tracker.Remote

/-!
# Snapshots

A snapshot is a JSON file with records of the tracker: a list of them, or a mapping with the list under
the name of the records. Every entry has to be a record; the first that is none is reported.
-/

namespace Triage

/-- A kind of records in a snapshot. -/
structure RecordKind (α : Type) where
  /-- What an entry is called. -/
  one : String
  /-- What the entries are called, and the key of their list. -/
  many : String
  read : Data → Except Fault α
  /-- The classes of faults that are reported as faults of the entry. -/
  reported : List FaultClass

namespace Snapshot

def issues : RecordKind Issue := ⟨"issue", "issues", Issue.ofData, [.key, .kind, .value]⟩

def labels : RecordKind RemoteLabel := ⟨"label", "labels", RemoteLabel.ofData, [.member, .key, .kind]⟩

def columns : RecordKind RemoteColumn :=
  ⟨"column", "columns", RemoteColumn.ofData, [.member, .key, .kind]⟩

variable {α : Type}

/-- The entries of a snapshot. -/
def entries? (kind : RecordKind α) : Data → Option (List Data)
  | .map fields =>
    match Data.field kind.many fields with
    | .list items => some items
    | _ => none
  | .list items => some items
  | _ => none

/-- What the user is told about an entry that is no record. -/
def malformed (kind : RecordKind α) (path : String) (place : Nat) (fault : Fault) : String :=
  s!"{path}: {kind.one} at index {place} is malformed ({fault.message})"

/-- Reads entries, the first of which has a given place. -/
def readEntries (kind : RecordKind α) (path : String) : Nat → List Data → Except Halt (List α)
  | _, [] => .ok []
  | place, entry :: rest =>
    match kind.read entry with
    | .ok a => do return a :: (← readEntries kind path (place + 1) rest)
    | .error fault =>
      if fault.classOf ∈ kind.reported then .error (.refused (malformed kind path place fault))
      else .error (.fault fault)

/-- The records of a decoded snapshot. -/
def ofData (kind : RecordKind α) (path : String) (data : Data) : Except Halt (List α) :=
  match entries? kind data with
  | some entries => readEntries kind path 0 entries
  | none => .error (.refused s!"{path}: expected a JSON list of {kind.many}")

/-- The value that a text holds. -/
def decode (text : String) : Except Halt Data :=
  (Json.read text).mapError fun
    | .malformed problem place => .notJson problem place
    | .number fault => .fault (.integer fault)

/-- The records of the snapshot at a written path. -/
def load (kind : RecordKind α) (path : String) : Job (List α) := do
  let text ← Job.readText path
  match decode text >>= ofData kind path with
  | .ok records => return records
  | .error halt => Job.halt halt

end Snapshot

end Triage
