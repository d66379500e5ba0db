import Triage.Policy.Reading
import Triage.Yaml.Writing

/-!
# Writing policies

The document of a policy has every section and every field, in a fixed order; only names that are not
set, hours of labels that have none, and triggers that are not replaced are left out.
-/

namespace Triage

namespace LabelDefinition

def toData (d : LabelDefinition) : Data :=
  .record ([("color", .text d.color), ("description", .text d.description)]
    ++ (d.slaHours.map fun hours => ("sla_hours", Data.int hours)).toList)

end LabelDefinition

/-- A table as a mapping. -/
def Table.toData {α : Type} (f : α → Data) (t : Table α) : Data :=
  .record (t.entries.map fun (key, value) => (key, f value))

namespace Trigger

def toData (t : Trigger) : Data :=
  .record ([("pattern", .text t.pattern), ("weight", .float t.weight)]
    ++ (t.name.map fun name => ("name", Data.text name)).toList)

end Trigger

namespace Policy

def optionalText (key : String) (value : Option String) : List (String × Data) :=
  (value.map fun s => (key, Data.text s)).toList

def projectData (p : Project) : Data :=
  .record (("type", .text p.kind.name) :: optionalText "language" p.language
    ++ optionalText "name" p.name ++ optionalText "repo" p.repo)

def labelsData (t : Taxonomy) : Data :=
  .record (("prefixes", .record (Category.all.map fun c => (c.name, .text (t.group c).lead)))
    :: Category.all.map fun c => (c.name, (t.group c).labels.toData LabelDefinition.toData))

def boardData (b : Board) : Data :=
  .record [("name", .text b.name),
    ("columns", .list (b.columns.map fun column =>
      .record [("name", .text column.name), ("maps_to", .text column.mapsTo)]))]

def inferenceData (s : InferenceSettings) : Data :=
  .record ([("enabled", .bool s.enabled), ("confidence_threshold", .float s.threshold)]
    ++ (s.overrides.map fun tables =>
      ("triggers", tables.toData (Table.toData fun triggers => .list (triggers.map Trigger.toData)))).toList)

def ruleData (r : EscalationRule) : Data :=
  .record [("from_priority", .text r.source), ("to_priority", .text r.target), ("after_days", .int r.afterDays)]

def automationData (a : Automation) : Data :=
  .record [
    ("label_inference", inferenceData a.inference),
    ("priority_escalation", .record [("enabled", .bool a.escalation.enabled),
      ("rules", .list (a.escalation.rules.map ruleData))]),
    ("blocked_detection", .record [("enabled", .bool a.blocked.enabled),
      ("sla", a.blocked.sla.toData Data.ofNumber), ("warning_ratio", .float a.blocked.warningRatio)]),
    ("status_sync", .record [("enabled", .bool a.sync.enabled),
      ("direction", .text a.sync.direction.name),
      ("conflict_resolution", .text a.sync.resolution.name)]),
    ("new_issue_defaults", .record [("auto_add_to_backlog", .bool a.intake.toBacklog),
      ("require_type_label", .bool a.intake.requireType),
      ("require_priority_label", .bool a.intake.requirePriority),
      ("default_priority", .text a.intake.defaultPriority)])]

/-- The value of the document. -/
def toData (p : Policy) : Data :=
  .record [("project", projectData p.project), ("labels", labelsData p.labels),
    ("board", boardData p.board), ("automation", automationData p.automation)]

/-- The written document. -/
def toText (p : Policy) : Except Fault String := (Yaml.write p.toData).mapError .integer

end Policy

end Triage
