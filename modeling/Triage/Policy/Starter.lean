import Triage.Note

/-!
# Starter policies

The policy that a new project gets: the same labels for every kind of project, areas apart, a column for
every status, and all automation enabled.
-/

namespace Triage

namespace Starter

def definitions (entries : List (String × String × String)) : Table LabelDefinition :=
  .ofList (entries.map fun (short, color, description) => (short, ⟨color, description, none⟩))

def status : Table LabelDefinition := definitions [
  ("backlog", "ededed", "Waiting to be picked up"),
  ("in-progress", "0e8a16", "Work in progress"),
  ("review", "fbca04", "Under review"),
  ("testing", "1d76db", "Being tested"),
  ("done", "0e8a16", "Completed")]

def priority : Table LabelDefinition := .ofList [
  ("P0", ⟨"d93f0b", "Critical", some 4⟩),
  ("P1", ⟨"e99695", "High", some 24⟩),
  ("P2", ⟨"fbca04", "Medium", some 72⟩),
  ("P3", ⟨"c5def5", "Low", some 168⟩)]

def type : Table LabelDefinition := definitions [
  ("bug", "d73a4a", "Something is broken"),
  ("feature", "0e8a16", "New functionality"),
  ("docs", "0075ca", "Documentation"),
  ("refactor", "fbca04", "Code restructuring"),
  ("test", "1d76db", "Tests"),
  ("security", "d93f0b", "Security issue")]

def workflow : Table LabelDefinition := definitions [
  ("blocked", "d93f0b", "Blocked"),
  ("needs-info", "fbca04", "Needs more information"),
  ("needs-review", "0075ca", "Needs code review"),
  ("duplicate", "cccccc", "Duplicate issue")]

def area : ProjectKind → Table LabelDefinition
  | .backend => definitions [
      ("api", "c2e0c6", "API"),
      ("database", "f9d0c4", "Database"),
      ("auth", "fef2c0", "Authentication and authorization"),
      ("performance", "e99695", "Performance")]
  | .frontend => definitions [
      ("ui", "d4c5f9", "User interface"),
      ("ux", "bfdadc", "User experience"),
      ("performance", "e99695", "Performance"),
      ("responsive", "c2e0c6", "Responsive layout")]
  | .fullstack => definitions [
      ("api", "c2e0c6", "API"),
      ("ui", "d4c5f9", "User interface"),
      ("database", "f9d0c4", "Database"),
      ("auth", "fef2c0", "Authentication and authorization")]
  | .library => definitions [
      ("api", "c2e0c6", "Public API"),
      ("docs", "0075ca", "Documentation"),
      ("examples", "1d76db", "Example code"),
      ("compatibility", "fbca04", "Compatibility")]

def columns : List Column := [
  ⟨"Backlog", "backlog"⟩,
  ⟨"In Progress", "in-progress"⟩,
  ⟨"Review", "review"⟩,
  ⟨"Testing", "testing"⟩,
  ⟨"Done", "done"⟩]

def labels (kind : ProjectKind) : Category → Table LabelDefinition
  | .status => status
  | .priority => priority
  | .type => type
  | .area => area kind
  | .workflow => workflow

end Starter

/-- The rules that apply where a policy has none: each priority rises to the next one with age. -/
def standardLadder : List EscalationRule := [⟨"P3", "P2", 30⟩, ⟨"P2", "P1", 14⟩, ⟨"P1", "P0", 3⟩]

namespace Policy

def starter (project : Project) : Policy where
  project := project
  labels := .ofGroups fun c => ⟨c.standardLead, Starter.labels project.kind c⟩
  board := ⟨Board.standardName, Starter.columns⟩
  automation := {
    inference := ⟨true, 0, none⟩
    escalation := ⟨true, standardLadder⟩
    blocked := ⟨true, ∅, BlockedSettings.standardRatio⟩
    sync := ⟨true, .both, .keepLast⟩
    intake := .standard }

/-- The starter policy of a kind of project that is given by its name. -/
def starterNamed (kind : String) (language name repo : Option String) : Except Fault Policy :=
  match ProjectKind.ofName? kind with
  | some kind => .ok (starter ⟨kind, language, name, repo⟩)
  | none => .error (.projectKind kind)

end Policy

end Triage
