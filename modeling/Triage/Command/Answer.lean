import Triage.Escalation
import Triage.Plan
import Triage.Policy.Audit
import Triage.Report

/-!
# Answers

What the commands answer, in two forms: as values for machines, with every field under its name, and as
lines for people.
-/

namespace Triage

/-- A list of texts as a value. -/
def textsData (texts : List String) : Data := .list (texts.map .text)

def optionalData (text : Option String) : Data := (text.map Data.text).getD .null

/-! ## For machines -/

def Audit.toData (a : Audit) : Data :=
  .record [("valid", .bool a.valid), ("errors", textsData (a.defects.map Defect.message)),
    ("warnings", textsData (a.warnings.map Warning.message))]

def Suggestion.toData (s : Suggestion Float) : Data :=
  .record [("category", .text s.category.name), ("label", .text s.label), ("confidence", .float s.confidence),
    ("reason", .text s.reason)]

def Standing.toData (s : Standing Float) : Data :=
  .record [("number", .int s.number), ("title", s.title), ("priority", .text s.priority),
    ("age_hours", .float s.age), ("sla_hours", .ofNumber s.sla), ("exceeded_by", .float s.exceeded),
    ("status", .text s.urgency.name), ("reason", .text s.reason)]

def Escalation.toData (e : Escalation) : Data :=
  .record [("issue_number", .int e.number), ("old_priority", .text e.oldPriority),
    ("new_priority", .text e.newPriority), ("reason", .text e.reason), ("old_label", optionalData e.oldLabel),
    ("new_label", .text e.newLabel), ("label_available", .bool e.available)]

def LabelSpec.toData (s : LabelSpec) : Data :=
  .record [("name", .text s.name), ("category", .text s.category), ("color", .text s.color),
    ("description", .text s.description)]

def Column.toData (c : Column) : Data :=
  .record [("name", .text c.name), ("maps_to", .text c.mapsTo)]

def Plan.toData {α : Type} (item : α → Data) (p : Plan α) : Data :=
  .record [("created", .list (p.created.map item)), ("updated", .list (p.updated.map item)),
    ("skipped", .list (p.skipped.map item)),
    ("changes", .record (p.changes.map fun (name, fields) => (name, textsData (fields.map LabelField.name))))]

def countsData (counts : Table Nat) : Data := .record (counts.entries.map fun (key, n) => (key, .int n))

def Report.toData (r : Report Float) : Data :=
  .record [("total_open", .int r.totalOpen), ("total_closed", .int r.totalClosed),
    ("by_status", countsData r.byStatus), ("by_priority", countsData r.byPriority),
    ("by_type", countsData r.byType), ("blocked_count", .int r.blocked),
    ("average_age_days", .float r.averageAge), ("health_score", .int r.health),
    ("generated_at", .text r.generatedAt.iso), ("sla_breaches", .list (r.breaches.map Standing.toData)),
    ("recommendations", textsData r.recommendations)]

/-! ## For people -/

/-- A text with blanks behind it up to a width. -/
def padRight (width : Nat) (s : String) : String := s ++ String.ofList (List.replicate (width - s.length) ' ')

/-- A text with blanks in front of it up to a width. -/
def padLeft (width : Nat) (s : String) : String := String.ofList (List.replicate (width - s.length) ' ') ++ s

def Audit.lines (a : Audit) : List String :=
  a.defects.map (fun d => "error: " ++ d.message) ++ a.warnings.map (fun w => "warning: " ++ w.message)

def Suggestion.line (s : Suggestion Float) : String :=
  s!"  + {s.label} ({Quantity.fixed 2 s.confidence}) {s.reason}"

/-- What an issue should be labeled with, and the categories that it has no label of. -/
structure Advice where
  number : Int
  title : Data
  recommended : List (Suggestion Float)
  missing : List Category

namespace Advice

def toData (a : Advice) : Data :=
  .record [("number", .int a.number), ("title", a.title),
    ("recommended", .list (a.recommended.map Suggestion.toData)),
    ("missing", textsData (a.missing.map Category.name))]

def lines (a : Advice) : List String :=
  s!"#{a.number} {a.title.display}" :: a.recommended.map Suggestion.line
    ++ (if a.missing.isEmpty then [] else ["  missing: " ++ ", ".intercalate (a.missing.map Category.name)])

end Advice

namespace Standing

def mark : Urgency → String
  | .blocked => "BLOCKED"
  | .warning => "WARNING"
  | .ok => "ok"

/-- The heads of the columns. -/
def heading : String :=
  padRight 8 "Status" ++ " " ++ padRight 8 "Issue" ++ " " ++ padRight 9 "Priority" ++ " "
    ++ padLeft 8 "Age (h)" ++ " " ++ padLeft 8 "SLA (h)" ++ " " ++ padLeft 9 "Over (h)" ++ "  Title"

def line (s : Standing Float) : String :=
  padRight 8 (mark s.urgency) ++ " #" ++ padRight 7 (toString s.number) ++ " " ++ padRight 9 s.priority ++ " "
    ++ padLeft 8 (Quantity.fixed 1 s.age) ++ " " ++ padLeft 8 s.sla.general ++ " "
    ++ padLeft 9 (Quantity.fixed 1 s.exceeded) ++ "  " ++ s.title.display

end Standing

/-- The line of a decision that is carried out, or would be. -/
def Escalation.line (apply : Bool) (e : Escalation) : String :=
  let verb := if apply then "Apply" else "Would apply"
  let remark := if e.available then "" else s!" (label {e.newLabel} missing)"
  s!"{verb}: #{e.number} {e.oldPriority} -> {e.newPriority}: {e.reason}{remark}"

namespace Plan

def labelLines (p : Plan LabelSpec) : List String :=
  p.created.map (fun s => s!"create  {s.name} #{s.color}")
    ++ p.updated.map (fun s =>
      let fields := (p.changes.lookup s.name).getD []
      s!"update  {s.name} (" ++ ", ".intercalate (fields.map LabelField.name) ++ ")")
    ++ [s!"{p.created.length} to create, {p.updated.length} to update, {p.skipped.length} unchanged"]

def columnLines (p : Plan Column) : List String :=
  p.created.map (fun c => s!"create  {c.name} -> {c.mapsTo}")
    ++ [s!"{p.created.length} to create, {p.skipped.length} existing"]

end Plan

end Triage
