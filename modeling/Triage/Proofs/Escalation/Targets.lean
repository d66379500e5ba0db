import Mathlib.Control.Monad.Basic
import Triage.Escalation
import Triage.Proofs.Audit

/-!
# Targets of escalation

The rules of a valid policy lead to defined priorities. Two other targets are fixed: security issues go to
the top priority, and where a policy has no rules the standard ladder applies. These are defined only in a
policy that defines them.
-/

namespace Triage

namespace Policy

/-- The fixed targets are among the priorities that a policy defines. -/
structure DefinesFixedTargets (p : Policy) : Prop where
  top : p.labels.priority.defines topPriority = true
  ladder : p.automation.escalation.rules = [] →
    ∀ rule ∈ standardLadder, p.labels.priority.defines rule.target = true

/-- The full name of a defined label is among all labels. -/
theorem fullLabel_mem_allLabels {p : Policy} {c : Category} {short : String}
    (defined : (p.group c).defines short = true) : p.fullLabel c short ∈ p.allLabels.map LabelSpec.name := by
  obtain ⟨⟨_, definition⟩, entry, rfl⟩ := List.mem_map.1 (List.contains_iff_mem.1 defined)
  refine List.mem_map.2 ⟨⟨_, c.name, definition.color, definition.description⟩, ?_, rfl⟩
  refine List.mem_flatMap.2 ⟨c, Category.mem_all c, ?_⟩
  exact List.mem_map.2 ⟨_, entry, rfl⟩

end Policy

namespace Escalation

section

variable {α : Type} [Quantity α] {find : Inference.Finder} {p : Policy} {known : Option (List Data)}
  {labels : Option (List RemoteLabel)} {dryRun : Bool} {now : Time.Moment} {i : Issue}
  {issues : List Issue} {decisions : List Escalation} {d : Escalation}

/-- A security issue that is not at the top priority goes there. -/
def IsSecurity (d : Escalation) : Prop :=
  d.oldPriority ≠ topPriority ∧ d.newPriority = topPriority ∧ d.reason = "security auto-escalation"

/-- A decision that a rule asks for. -/
def Follows (d : Escalation) (rule : EscalationRule) : Prop :=
  rule.source = d.oldPriority ∧ rule.target = d.newPriority

/-! ## One issue -/

theorem target?_cases {current target reason : String}
    (found : target? α find p now i current = .ok (some (target, reason))) :
    (current ≠ topPriority ∧ target = topPriority ∧ reason = "security auto-escalation") ∨
      ∃ rule ∈ p.escalationRules, rule.source = current ∧ rule.target = target := by
  unfold target? at found
  split at found
  · rename_i signal
    cases found
    simp only [Bool.and_eq_true, bne_iff_ne, ne_eq] at signal
    exact .inl ⟨signal.1, rfl, rfl⟩
  · split at found
    · cases found
    · rename_i rule first
      split at found
      · cases found
      · cases found
        have applies := List.find?_some first
        simp only [Bool.and_eq_true, beq_iff_eq] at applies
        exact .inr ⟨rule, List.mem_of_find?_eq_some first, applies.1, rfl⟩

/-- A decision starts from the priority of the issue and leads to its target. -/
theorem decide?_eq_some (decided : (decide? α find p known now i).result = .ok (some d)) :
    (p.priorityLabel i).result = .ok (d.oldPriority, d.oldLabel) ∧
      target? α find p now i d.oldPriority = .ok (some (d.newPriority, d.reason)) ∧
      d.newLabel = p.fullLabel .priority d.newPriority := by
  obtain ⟨⟨oldPriority, oldLabel⟩, source, decided⟩ := Run.result_bind_eq_ok.1 decided
  obtain ⟨outcome, found, decided⟩ := Run.result_bind_eq_ok.1 decided
  cases outcome with
  | none => cases decided
  | some outcome =>
      cases decided
      exact ⟨source, found, rfl⟩

/-- A decision gives the full name of its new priority, and has a security signal or a rule behind it. -/
theorem decide?_cases (decided : (decide? α find p known now i).result = .ok (some d)) :
    d.newLabel = p.fullLabel .priority d.newPriority ∧
      (d.IsSecurity ∨ ∃ rule ∈ p.escalationRules, d.Follows rule) := by
  obtain ⟨-, found, named⟩ := decide?_eq_some decided
  exact ⟨named, target?_cases found⟩

/-! ## All issues -/

/-- Every decision is the one about some issue. -/
theorem mem_decideAll (decided : (decideAll α find p known dryRun now issues).result = .ok decisions)
    (member : d ∈ decisions) : ∃ i ∈ issues, (decide? α find p known now i).result = .ok (some d) := by
  induction issues generalizing decisions with
  | nil =>
      cases decided
      cases member
  | cons i rest ih =>
      have later {others : List Escalation}
          (found : (decideAll α find p known dryRun now rest).result = .ok others) (among : d ∈ others) :
          ∃ j ∈ i :: rest, (decide? α find p known now j).result = .ok (some d) := by
        obtain ⟨j, present, about⟩ := ih found among
        exact ⟨j, List.mem_cons_of_mem i present, about⟩
      obtain ⟨isOpen, -, decided⟩ := Run.result_bind_eq_ok.1 decided
      cases isOpen with
      | false => exact later decided member
      | true =>
          obtain ⟨first, about, decided⟩ := Run.result_bind_eq_ok.1 decided
          cases first with
          | none =>
              obtain ⟨others, found, together⟩ := Run.result_bind_eq_ok.1 decided
              cases together
              exact later found member
          | some here =>
              obtain ⟨_, -, decided⟩ := Run.result_bind_eq_ok.1 decided
              obtain ⟨others, found, together⟩ := Run.result_bind_eq_ok.1 decided
              cases together
              obtain rfl | among := List.mem_cons.1 member
              · exact ⟨i, List.mem_cons_self, about⟩
              · exact later found among

theorem mem_decideWith (decided : (decideWith α find p labels dryRun now issues).result = .ok decisions)
    (member : d ∈ decisions) :
    ∃ i ∈ issues, ∃ known, (decide? α find p known now i).result = .ok (some d) := by
  unfold decideWith at decided
  split at decided
  · cases decided
    cases member
  · obtain ⟨known, -, decided⟩ := Run.result_bind_eq_ok.1 decided
    obtain ⟨i, present, about⟩ := mem_decideAll decided member
    exact ⟨i, present, known, about⟩

/-! ## Valid policies -/

/-- Escalation under a valid policy proposes defined priorities, the fixed targets apart, and so defined
priorities throughout under a policy that defines the fixed targets. -/
theorem targets_of_valid (valid : p.audit.valid = true)
    (decided : (decideWith α find p labels dryRun now issues).result = .ok decisions) :
    ∀ d ∈ decisions, d.newLabel = p.fullLabel .priority d.newPriority ∧
      (p.labels.priority.defines d.newPriority = true ∨ d.IsSecurity ∨
        p.automation.escalation.rules = [] ∧ ∃ rule ∈ standardLadder, d.Follows rule) ∧
      (p.labels.priority.defines d.newPriority = true ∨ p.DefinesFixedTargets →
        p.labels.priority.defines d.newPriority = true ∧ d.newLabel ∈ p.allLabels.map LabelSpec.name) := by
  intro d member
  obtain ⟨i, -, known, about⟩ := mem_decideWith decided member
  obtain ⟨named, behind⟩ := decide?_cases about
  have source : p.labels.priority.defines d.newPriority = true ∨ d.IsSecurity ∨
      p.automation.escalation.rules = [] ∧ ∃ rule ∈ standardLadder, d.Follows rule := by
    obtain security | ⟨rule, present, follows⟩ := behind
    · exact .inr (.inl security)
    · unfold Policy.escalationRules at present
      split at present
      · rename_i bare
        exact .inr (.inr ⟨List.isEmpty_iff.1 bare, rule, present, follows⟩)
      · obtain ⟨-, -, -, rules⟩ := Policy.valid_iff.1 valid
        exact .inl (follows.2 ▸ (rules rule present).2)
  refine ⟨named, source, fun complete => ?_⟩
  have defined : p.labels.priority.defines d.newPriority = true := by
    obtain defined | fixed := complete
    · exact defined
    · obtain defined | security | ⟨bare, rule, present, follows⟩ := source
      · exact defined
      · exact security.2.1 ▸ fixed.top
      · exact follows.2 ▸ fixed.ladder bare rule present
  exact ⟨defined, named ▸ Policy.fullLabel_mem_allLabels defined⟩

end

/-! ## Two priorities -/

/-- A policy with priorities of its own; a low one becomes high after a week. -/
def twoPriorities : Policy where
  project := ⟨.backend, none, none, none⟩
  labels := {
    status := ⟨"status/", .ofList [("backlog", ⟨"ededed", "", none⟩)]⟩
    priority := ⟨"priority/", .ofList [("high", ⟨"d93f0b", "", none⟩), ("low", ⟨"c5def5", "", none⟩)]⟩
    type := ⟨"type/", .ofList [("bug", ⟨"d73a4a", "", none⟩), ("security", ⟨"d93f0b", "", none⟩)]⟩
    area := ⟨"area/", ∅⟩
    workflow := ⟨"workflow/", ∅⟩ }
  board := .standard
  automation := {
    inference := ⟨true, 0, none⟩
    escalation := ⟨true, [⟨"low", "high", 7⟩]⟩
    blocked := ⟨true, ∅, BlockedSettings.standardRatio⟩
    sync := ⟨true, .both, .keepLast⟩
    intake := .standard }

/-- An issue of the first of March. -/
def opened (labels : List String) : Issue where
  number := 1
  title := .text "Crash on startup"
  body := .text ""
  labels := .ofList labels
  createdAt := ⟨⟨2026, 3, 1⟩, 9, 0, 0, 0, some 0⟩
  updatedAt := ⟨⟨2026, 3, 1⟩, 9, 0, 0, 0, some 0⟩
  state := .text "open"

def threeWeeksOn : Time.Moment := ⟨⟨2026, 3, 22⟩, 9, 0, 0, 0, some 0⟩

def becomesHigh : Escalation :=
  ⟨1, "low", "high", "exceeded 7 days unresolved", some "priority/low", "priority/high", true⟩

theorem low_becomes_high :
    twoPriorities.audit.valid = true ∧
      (decide twoPriorities none true threeWeeksOn [opened ["priority/low"]]).result = .ok [becomesHigh] ∧
      becomesHigh.newLabel ∈ twoPriorities.allLabels.map LabelSpec.name := by
  have valid : twoPriorities.audit.valid = true := by decide +kernel
  have decided : (decide twoPriorities none true threeWeeksOn [opened ["priority/low"]]).result =
      .ok [becomesHigh] := by decide +kernel
  obtain ⟨-, -, among⟩ := targets_of_valid valid decided becomesHigh (List.mem_singleton.2 rfl)
  have defined : twoPriorities.labels.priority.defines becomesHigh.newPriority = true := by decide
  exact ⟨valid, decided, (among (.inl defined)).2⟩

/-- A valid policy need not define the priority that security issues get. -/
theorem security_target_undefined :
    ¬ ∀ (p : Policy) (labels : Option (List RemoteLabel)) (dryRun : Bool) (now : Time.Moment)
      (issues : List Issue) (decisions : List Escalation), p.audit.valid = true →
      (decide p labels dryRun now issues).result = .ok decisions →
      ∀ d ∈ decisions, p.labels.priority.defines d.newPriority = true := by
  intro always
  have raised : (decide twoPriorities none true threeWeeksOn [opened ["type/security"]]).result =
      .ok [⟨1, "P3", "P0", "security auto-escalation", none, "priority/P0", true⟩] := by
    decide +kernel
  have defined := always _ _ _ _ _ _ (by decide +kernel) raised _ (List.mem_singleton.2 rfl)
  exact absurd defined (by decide)

end Escalation

end Triage
