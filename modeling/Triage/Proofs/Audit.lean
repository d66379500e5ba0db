import Triage.Policy.Audit

/-!
# Valid policies

A policy is valid exactly when every category that needs labels has some and every name that the board,
the blocked detection and the escalation rules use is defined.
-/

namespace Triage

namespace Policy

theorem ruleDefects_eq_nil_iff {p : Policy} {place : Nat} {rules : List EscalationRule} :
    p.ruleDefects place rules = [] ↔ ∀ rule ∈ rules,
      p.labels.priority.defines rule.source = true ∧ p.labels.priority.defines rule.target = true := by
  induction rules generalizing place with
  | nil => simp [ruleDefects]
  | cons rule rest ih =>
      rw [ruleDefects, endpoints, List.append_eq_nil_iff, ih]
      cases source : p.labels.priority.defines rule.source with
      | false => simp [source]
      | true =>
          cases target : p.labels.priority.defines rule.target with
          | false => simp [source, target]
          | true => simp [source, target]

theorem valid_iff {p : Policy} : p.audit.valid = true ↔
    (∀ c : Category, c.isOptional = false → p.isEmpty c = false) ∧
    (∀ column ∈ p.board.columns, (p.columnStatus? column).isSome = true) ∧
    (∀ priority ∈ p.automation.blocked.sla.keys, p.labels.priority.defines priority = true) ∧
    (∀ rule ∈ p.automation.escalation.rules,
      p.labels.priority.defines rule.source = true ∧ p.labels.priority.defines rule.target = true) := by
  simp only [audit, List.isEmpty_iff, defects, List.append_eq_nil_iff,
    ruleDefects_eq_nil_iff, List.map_eq_nil_iff, List.filter_eq_nil_iff, and_assoc]
  refine and_congr ?_ (and_congr ?_ (and_congr ?_ Iff.rfl))
  · constructor
    · intro filled c needed
      simpa [needed] using filled c (Category.mem_all c)
    · intro filled c _ both
      obtain ⟨bare, needed⟩ : p.isEmpty c = true ∧ c.isOptional = false := by simpa using both
      simp [filled c needed] at bare
  · simp [Option.isSome_iff_ne_none]
  · simp

end Policy

end Triage
