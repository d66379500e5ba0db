import Triage.Proofs.Policy.Obstacles

/-!
# Sections of a policy document

Each section of a document is read on its own. Where nothing stops the reading, the messages are those of the
four sections in their order, there is a policy when none of them has any, and what else stands in the
document has no part in it.
-/

namespace Triage.Policy

/-- The document gives a policy or the problems of one. -/
def Answered (entries : Entries) : Prop :=
  (∃ p, (ofEntries entries).result = .ok p) ∨ ∃ problems, (ofEntries entries).result = .error (.policy problems)

/-- The messages about a document; a policy comes without any. -/
def messages (entries : Entries) : List String :=
  match (ofEntries entries).result with
  | .error (.policy problems) => Fault.policyMessages problems
  | _ => []

/-! ## What a section gives by itself -/

def projectMessages (raw : Data) : List String := Fault.policyMessages (readProject raw).run.problems

def labelsMessages (raw : Data) : List String := Fault.policyMessages (readTaxonomy raw).run.problems

def boardMessages (raw : Data) : List String := Fault.policyMessages (readBoard raw).problems

def automationMessages (raw : Data) : List String := Fault.policyMessages (readAutomation raw).run.problems

variable {entries others : Entries} {s : Sections} {p : Policy}

/-- Reading stops with no problems of a policy, so behind an answer there are sections. -/
theorem Answered.sections (answered : Answered entries) : ∃ s, (readSections entries).result = .ok s := by
  rcases (stops_readSections entries).dichotomy with ⟨stop, obstacle, stopped⟩ | ⟨-, s, read⟩
  · have result : (ofEntries entries).result = .error stop := by
      rw [ofEntries, Run.result_bind, stopped]
      rfl
    rcases answered with ⟨p, found⟩ | ⟨problems, refused⟩
    · cases result.symm.trans found
    · exact absurd (Except.error.inj (result.symm.trans refused)) (obstacle_ne_policy obstacle problems)
  · exact ⟨s, read⟩

theorem result_ofEntries (read : (readSections entries).result = .ok s) : (ofEntries entries).result = s.policy := by
  rw [ofEntries, Run.result_bind, read]
  rfl

/-- Sections with their problems are settled by the values under their keys. -/
theorem sections_unique {s t : Sections} (read : (readSections entries).result = .ok s)
    (other : (readSections others).result = .ok t)
    (same : ∀ key ∈ sections, Data.field key others = Data.field key entries) : s = t := by
  obtain ⟨project, labels, board, automation, -⟩ := result_readSections_eq_ok_iff.1 read
  obtain ⟨project', labels', board', automation', -⟩ := result_readSections_eq_ok_iff.1 other
  rw [same "project" (by decide), project] at project'
  rw [same "labels" (by decide), labels] at labels'
  rw [same "board" (by decide), board] at board'
  rw [same "automation" (by decide), automation] at automation'
  obtain ⟨⟨_, _⟩, ⟨_, _⟩, _, ⟨_, _⟩⟩ := s
  obtain ⟨⟨_, _⟩, ⟨_, _⟩, _, ⟨_, _⟩⟩ := t
  cases project'
  cases labels'
  cases board'
  cases automation'
  rfl

/-- The messages of a document are those of its sections. -/
theorem messages_eq (read : (readSections entries).result = .ok s) :
    messages entries = Fault.policyMessages s.problems := by
  rw [messages, result_ofEntries read]
  rcases policy_of_readSections read with ⟨none, project, labels, -, -, policy⟩ | ⟨-, policy⟩
  · rw [policy, none]
    rfl
  · rw [policy]

theorem messages_sections (read : (readSections entries).result = .ok s) :
    projectMessages (Data.field "project" entries) = Fault.policyMessages s.project.problems ∧
    labelsMessages (Data.field "labels" entries) = Fault.policyMessages s.labels.problems ∧
    boardMessages (Data.field "board" entries) = Fault.policyMessages s.board.problems ∧
    automationMessages (Data.field "automation" entries) = Fault.policyMessages s.automation.problems := by
  obtain ⟨project, labels, board, automation, -⟩ := result_readSections_eq_ok_iff.1 read
  refine ⟨?_, ?_, ?_, ?_⟩
  · rw [projectMessages, project]
  · rw [labelsMessages, labels]
  · rw [boardMessages, board]
  · rw [automationMessages, automation]

/-- The messages about a document are those about its four sections, each by itself, and there is a policy where
there are none. Each part of the policy is what its section gives, and a document with the same sections gets
the same answer. -/
theorem answer_by_sections (answered : Answered entries) :
    messages entries = projectMessages (Data.field "project" entries) ++ labelsMessages (Data.field "labels" entries)
      ++ boardMessages (Data.field "board" entries) ++ automationMessages (Data.field "automation" entries) ∧
    ((∃ p, (ofEntries entries).result = .ok p) ↔
      projectMessages (Data.field "project" entries) = [] ∧ labelsMessages (Data.field "labels" entries) = [] ∧
      boardMessages (Data.field "board" entries) = [] ∧ automationMessages (Data.field "automation" entries) = []) ∧
    (∀ p, (ofEntries entries).result = .ok p →
      (readProject (Data.field "project" entries)).outcome = .ok (some p.project) ∧
      (readTaxonomy (Data.field "labels" entries)).outcome = .ok (some p.labels) ∧
      (readBoard (Data.field "board" entries)).value = p.board ∧
      (readAutomation (Data.field "automation" entries)).outcome = .ok p.automation) ∧
    ∀ others, Answered others → (∀ key ∈ sections, Data.field key others = Data.field key entries) →
      (ofEntries others).result = (ofEntries entries).result := by
  obtain ⟨s, read⟩ := answered.sections
  obtain ⟨project, labels, board, automation⟩ := messages_sections read
  refine ⟨?_, ?_, ?_, ?_⟩
  · rw [messages_eq read, project, labels, board, automation]
    simp [Sections.problems, Fault.policyMessages]
  · rw [project, labels, board, automation, result_ofEntries read]
    have clean : s.problems = [] ↔ s.project.problems = [] ∧ s.labels.problems = [] ∧ s.board.problems = [] ∧
        s.automation.problems = [] := by
      simp [Sections.problems]
    simp only [Fault.policyMessages, List.map_eq_nil_iff, ← clean]
    rcases policy_of_readSections read with ⟨none, project, labels, -, -, policy⟩ | ⟨some, policy⟩
    · exact ⟨fun _ => none, fun _ => ⟨_, policy⟩⟩
    · constructor
      · rintro ⟨p, found⟩
        cases policy.symm.trans found
      · intro none
        exact absurd none some
  · intro p found
    obtain ⟨named, grouped, placed, automated, -⟩ := ofEntries_eq_ok_iff.1 found
    rw [named, grouped, placed, automated]
    exact ⟨rfl, rfl, rfl, rfl⟩
  · intro others answered' same
    obtain ⟨t, other⟩ := answered'.sections
    rw [result_ofEntries read, result_ofEntries other, sections_unique read other same]

/-- A document without labels, with a project of no known kind and with a board that has no name. -/
def flawed : Entries := [
  (.text "board", .record [("name", .text "")]),
  (.text "notes", .int 1),
  (.text "project", .record [("type", .text "toy")])]

/-- The same sections in another order, without the notes. -/
def reordered : Entries := [
  (.text "project", .record [("type", .text "toy")]),
  (.text "board", .record [("name", .text "")])]

theorem flawed_by_sections : Answered flawed ∧ Answered reordered ∧
    (∀ key ∈ sections, Data.field key reordered = Data.field key flawed) ∧
    messages flawed = ["project.type: must be one of backend, frontend, fullstack, library (got 'toy')",
      "labels: missing required section", "board.name: expected a non-empty string"] ∧
    (ofEntries reordered).result = (ofEntries flawed).result := by
  have answered : Answered flawed :=
    .inr ⟨[.choice "project.type" ["backend", "frontend", "fullstack", "library"] "'toy'", .missingSection "labels",
      .expected "board.name" .aFilledText], by decide +kernel⟩
  have answered' : Answered reordered :=
    .inr ⟨[.choice "project.type" ["backend", "frontend", "fullstack", "library"] "'toy'", .missingSection "labels",
      .expected "board.name" .aFilledText], by decide +kernel⟩
  have same : ∀ key ∈ sections, Data.field key reordered = Data.field key flawed := by
    simp only [sections, List.forall_mem_cons]
    exact ⟨rfl, rfl, rfl, rfl, by simp⟩
  obtain ⟨messages, -, -, agree⟩ := answer_by_sections answered
  refine ⟨answered, answered', same, messages.trans ?_, agree reordered answered' same⟩
  decide +kernel

end Triage.Policy
