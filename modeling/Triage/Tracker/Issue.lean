import Triage.Data.Display
import Triage.Fault
import Triage.LabelSet
import Triage.Text.Case
import Triage.Time.Iso

/-!
# Issues

An issue as the tracker gives it. Number, labels and times are read; title, body and state are kept as
they come, and may be anything but empty values, which count as no text or as the open state.
-/

namespace Triage

structure Issue where
  number : Int
  title : Data
  body : Data
  labels : LabelSet
  createdAt : Time.Moment
  updatedAt : Time.Moment
  state : Data

namespace Issue

/-- The title, the body and the state are texts, as they should be. -/
structure WellTyped (i : Issue) : Prop where
  title : ∃ s, i.title = .text s
  body : ∃ s, i.body = .text s
  state : ∃ s, i.state = .text s

def isOpen (i : Issue) : Except Fault Bool :=
  match i.state with
  | .text s => .ok (Text.lower s == "open")
  | value => .error (.noMember value.kind "lower")

/-- The later of the two times. -/
def lastTouched (i : Issue) : Time.Moment :=
  if i.updatedAt.instant < i.createdAt.instant then i.createdAt else i.updatedAt

/-- Microseconds since the issue was last touched. -/
def idle (i : Issue) (now : Time.Moment) : Int := now.instant - i.lastTouched.instant

/-- Microseconds since the issue was opened. -/
def age (i : Issue) (now : Time.Moment) : Int := now.instant - i.createdAt.instant

/-- The open ones of some issues. -/
def openOnes (issues : List Issue) : Except Fault (List Issue) := issues.filterM isOpen

end Issue

namespace Data

/-- The value under a key that has to be there. -/
def require (key : String) : Data → Except Fault Data
  | .map entries =>
    match lookup key entries with
    | some value => .ok value
    | none => .error (.absent key)
  | .list _ | .tuple _ => .error .textKeyOfList
  | .text _ => .error .textKeyOfText
  | value => .error (.noEntries value.kind)

/-- The value under a key, or nothing; only mappings can be asked. -/
def ask (key : String) : Data → Except Fault Data
  | .map entries => .ok (field key entries)
  | value => .error (.noMember value.kind "get")

/-- A moment, written or not. -/
def toMoment : Data → Except Fault Time.Moment
  | .text s => (Time.timestamp s).mapError .moment
  | .moment t => .ok t.assumeUniversal
  | value => .error (.noMember value.kind "strip")

/-- A whole number: a binary64 number loses its fraction, a text is read. -/
def whole : Data → Except Fault Int
  | .bool b => .ok (if b then 1 else 0)
  | .int n => .ok n
  | .float x =>
    match Decimal.finite? x with
    | some parts =>
      let magnitude : Int := parts.numerator / parts.denominator
      .ok (if parts.negative then -magnitude else magnitude)
    | none => .error (if x.isNaN then .notANumber else .infinite)
  | .text s => (Decimal.integer 10 s).mapError .integer
  | value => .error (.notWhole value.kind)

/-- The value, or another one in place of a value that is not truthy. -/
def orElse (value other : Data) : Data := if value.truthy then value else other

/-- What can be gone through: the items of a list, the keys of a mapping, the characters of a text. -/
def items : Data → Except Fault (List Data)
  | .list items | .tuple items | .set items => .ok items
  | .map entries => .ok (entries.map Prod.fst)
  | .text s => .ok (s.toList.map fun c => .text c.toString)
  | value => .error (.noItems value.kind)

/-- The name that a label entry gives, if it gives one. -/
def labelName? : Data → Option String
  | .text s => some s
  | .map entries =>
    let name := field "name" entries
    if name.truthy then some name.display else none
  | _ => none

def labelNames (raw : Data) : Except Fault LabelSet :=
  if raw.truthy then return .ofList ((← raw.items).filterMap labelName?) else .ok .empty

end Data

namespace Issue

/-- Reads an issue as the tracker writes it. Without a time of the last touch it was last touched when it
was opened. -/
def ofData (raw : Data) : Except Fault Issue := do
  let createdAt ← (← raw.require "created_at").toMoment
  let touched ← raw.ask "updated_at"
  let updatedAt ← if touched.truthy then touched.toMoment else pure createdAt
  let number ← (← raw.require "number").whole
  let title ← raw.ask "title"
  let body ← raw.ask "body"
  let labels ← (← raw.ask "labels").labelNames
  let state ← raw.ask "state"
  return {
    number, labels, createdAt, updatedAt
    title := title.orElse (.text "")
    body := body.orElse (.text "")
    state := state.orElse (.text "open") }

end Issue

end Triage
