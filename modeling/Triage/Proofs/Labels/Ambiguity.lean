import Mathlib.Data.List.Lattice
import Mathlib.Data.List.Nodup
import Mathlib.Data.List.Pairwise
import Triage.Proofs.Audit.Warnings
import Triage.Proofs.Labels

/-!
# Ambiguous labels

Leads are free: several categories may have the same one, none at all, or one that begins with another. So labels of
two categories can have the same full name, and then it is read as a label of both. An audit warns of a label that is
defined twice exactly where full names are ambiguous in this way.
-/

namespace Triage.Policy

variable {p : Policy}

/-- Every full name leads back to its label in the category of the label, and to none in all others. -/
def Unambiguous (p : Policy) : Prop :=
  ∀ c c' short, (p.group c).defines short = true →
    p.matchLabel? c' (p.fullLabel c short) = if c' = c then some short else none

/-- Labels of different categories have different full names. -/
def SeparateNames (p : Policy) : Prop :=
  ∀ c c', c ≠ c' → ∀ short ∈ (p.group c).names, ∀ short' ∈ (p.group c').names,
    p.fullLabel c short ≠ p.fullLabel c' short'

/-- A name is read as a label of another category where that category has a label of the same name. -/
theorem unambiguous_iff : p.Unambiguous ↔ p.SeparateNames := by
  constructor
  · intro clear c c' apart short defined short' defined' same
    have here : p.matchLabel? c' (p.fullLabel c short) = none :=
      (clear c c' short (List.contains_iff_mem.2 defined)).trans (if_neg apart.symm)
    have there : p.matchLabel? c' (p.fullLabel c' short') = some short' :=
      LabelGroup.match?_fullName (List.contains_iff_mem.2 defined')
    rw [same, there] at here
    cases here
  · intro separate c c' short defined
    by_cases home : c' = c
    · subst home
      rw [if_pos rfl]
      exact LabelGroup.match?_fullName defined
    · rw [if_neg home, Option.eq_none_iff_forall_ne_some]
      intro short' read
      obtain ⟨same, defined'⟩ := LabelGroup.match?_eq_some_iff.1 read
      exact separate c c' (Ne.symm home) short (List.contains_iff_mem.1 defined) short'
        (List.contains_iff_mem.1 defined') same

/-! ## Names that stand twice -/

theorem map_name_allLabels (p : Policy) : p.allLabels.map LabelSpec.name =
    Category.all.flatMap fun c => (p.group c).names.map (p.fullLabel c) := by
  rw [allLabels, List.map_flatMap]
  refine List.flatMap_congr fun c _ => ?_
  rw [LabelGroup.specs, LabelGroup.names, Table.keys, List.map_map, List.map_map]
  rfl

/-- Within a category no name stands twice, so all names differ if those of different categories do. -/
theorem nodup_names_iff : (p.allLabels.map LabelSpec.name).Nodup ↔ p.SeparateNames := by
  have within (c : Category) : ((p.group c).names.map (p.fullLabel c)).Nodup :=
    (p.group c).labels.nodup.map (p.group c).fullName_injective
  rw [map_name_allLabels, List.nodup_flatMap, and_iff_right fun c _ => within c]
  constructor
  · intro apart c c' different short defined short' defined' same
    have turned : Std.Symm (Function.onFun List.Disjoint fun c => (p.group c).names.map (p.fullLabel c)) :=
      ⟨fun _ _ => List.Disjoint.symm⟩
    have disjoint := apart.forall (Category.mem_all c) (Category.mem_all c') different
    exact disjoint (List.mem_map_of_mem defined) (same ▸ List.mem_map_of_mem defined')
  · intro separate
    refine (show Category.all.Nodup by decide).pairwise_of_forall_ne fun c _ c' _ different => ?_
    intro full here there
    obtain ⟨short, defined, rfl⟩ := List.mem_map.1 here
    obtain ⟨short', defined', same⟩ := List.mem_map.1 there
    exact separate c c' different short defined short' defined' same.symm

/-- No label is pointed out where all names differ, from each other and from those before. -/
theorem repeatedLabels_eq_nil_iff {seen : List (String × String)} {specs : List LabelSpec} :
    repeatedLabels seen specs = [] ↔
      (specs.map LabelSpec.name).Nodup ∧ ∀ spec ∈ specs, spec.name ∉ seen.map Prod.fst := by
  induction specs generalizing seen with
  | nil => simp [repeatedLabels]
  | cons spec rest ih =>
      rw [repeatedLabels, List.forall_mem_cons, ← Table.isSome_lookup_iff, List.map_cons, List.nodup_cons]
      cases seen.lookup spec.name with
      | some first => simp
      | none =>
          simp only [ih, Option.isSome_none, Bool.false_eq_true, not_false_eq_true, true_and, List.map_cons,
            List.mem_cons, List.mem_map]
          grind

/-- An audit points no label out exactly where all full names are different. -/
theorem no_repeatedLabel_iff :
    (∀ w ∈ p.warnings, w.isRepeatedLabel = false) ↔ (p.allLabels.map LabelSpec.name).Nodup := by
  have none : (∀ w ∈ p.warnings, w.isRepeatedLabel = false) ↔ p.warnings.countP Warning.isRepeatedLabel = 0 := by
    simp only [List.countP_eq_zero, Bool.not_eq_true]
  rw [none, countP_isRepeatedLabel, List.length_eq_zero_iff, repeatedLabels_eq_nil_iff]
  exact and_iff_left fun spec _ => List.not_mem_nil

/-! ## What is warned of -/

/-- An audit ends without an answer exactly where a rule that is pointed out has a delay of too many digits. Otherwise
it warns of no label that is defined twice exactly where full names are unambiguous. With any lead, a text is read as a
label only if it is the full name of that label. -/
theorem warned_of_ambiguity (p : Policy) :
    (((∃ rule ∈ p.automation.escalation.rules,
          rule.afterDays ≤ 0 ∧ 10 ^ Decimal.digitLimit ≤ rule.afterDays.natAbs) ∧
        p.check.result = .error (.integer .tooLongToWrite)) ∨
      (∀ rule ∈ p.automation.escalation.rules,
          rule.afterDays ≤ 0 → rule.afterDays.natAbs < 10 ^ Decimal.digitLimit) ∧
      ∃ a, p.check.result = .ok a ∧ ((∀ w ∈ a.warnings, w.isRepeatedLabel = false) ↔ p.Unambiguous)) ∧
    ∀ (g : LabelGroup) (full short : String), g.match? full = some short →
      full = g.fullName short ∧ g.defines short = true := by
  refine ⟨?_, fun g full short => LabelGroup.match?_eq_some_iff.1⟩
  obtain failed | ⟨short, answered⟩ := p.check_cases
  · exact .inl failed
  · refine .inr ⟨short, p.audit, answered, ?_⟩
    rw [unambiguous_iff, ← nodup_names_iff]
    exact no_repeatedLabel_iff

/-- A new project's policy in which areas are named like types, with a rule that was due long ago. -/
def muddled : Policy := { overdue with labels := { overdue.labels with area := overdue.labels.type } }

/-- Its labels are ambiguous, and nothing warns of that. -/
theorem muddled_is_not_warned_of :
    (¬ ∃ a, muddled.check.result = .ok a ∧ ∃ w ∈ a.warnings, w.isRepeatedLabel = true) ∧ ¬ muddled.Unambiguous := by
  have due : muddled.automation.escalation.rules.any hasLongDelay = true := overdue_is_due
  constructor
  · rintro ⟨a, answered, -⟩
    rw [result_check, if_pos due] at answered
    cases answered
  · intro clear
    have bug : muddled.matchLabel? .area (muddled.fullLabel .type "bug") = none :=
      clear .type .area "bug" (by decide +kernel)
    exact absurd bug (by decide +kernel)

end Triage.Policy
