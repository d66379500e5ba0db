import Triage.Proofs.Labels.Carried
import Triage.Report

/-!
# Readers of labels

Planning, overdue issues, reports, missing labels, conflicts and the backlog each look for the labels of an
issue in their own way. All of them see the labels that the issue carries, and where only one of a category
counts it is the one defined first.
-/

namespace Triage

/-- What each reader makes of the labels that an issue carries. -/
structure ReadersAgree (p : Policy) (i : Issue) : Prop where
  listed : ∀ c, p.categoryLabels i c = p.carried i c
  status : p.statusLabel? i = (p.carried i .status).head?
  /-- The short name and the label of the first priority, or the fallback without a label. -/
  priority : (p.priorityLabel i).result =
    .ok ((p.carriedNames i .priority).headD fallbackPriority, (p.carried i .priority).head?)
  reported : ∀ c, Report.shortLabel p c i = (p.carriedNames i c).headD Report.unlabeled
  missing : ∀ c, c ∈ Inference.missing p i ↔ c ∈ Inference.required p ∧ p.carried i c = []
  /-- One entry for each exclusive category with several labels, in order. -/
  conflicting : Sync.conflicts p i = (Sync.exclusive.filter fun c => decide (1 < (p.carried i c).length)).map
    fun c => s!"Issue #{i.number} has multiple {c.name} labels: " ++ ", ".intercalate (p.carried i c)
  backlog : Sync.goesToBacklog p i = true ↔
    p.automation.intake.toBacklog = true ∧ p.carried i .status = []

namespace Policy

variable {p : Policy} {i : Issue} {c : Category}

theorem shortLabel_eq_headD (p : Policy) (c : Category) (i : Issue) :
    Report.shortLabel p c i = (p.carriedNames i c).headD Report.unlabeled := by
  have same (short : String) :
      short ∈ i.labels.names.filterMap (p.matchLabel? c) ↔ short ∈ p.carriedNames i c := by
    rw [List.mem_filterMap, mem_carriedNames_iff_match]
    rfl
  rw [Report.shortLabel, Order.leastBy?_eq_head? same (p.rising_carriedNames i c), List.headD_eq_head?_getD]

/-- A category is missing where it is required and nothing of it is carried. -/
theorem mem_missing_iff (filled : ∀ short ∈ (p.group c).names, short ≠ "") :
    c ∈ Inference.missing p i ↔ c ∈ Inference.required p ∧ p.carried i c = [] := by
  have found : (i.labels.names.any fun label => ((p.matchLabel? c label).map (· != "")).getD false) = true ↔
      p.carried i c ≠ [] := by
    rw [carried, ne_eq, List.map_eq_nil_iff, List.any_eq_true, ← List.isEmpty_iff, Bool.not_eq_true,
      List.isEmpty_eq_false_iff_exists_mem]
    simp only [mem_carriedNames_iff_match]
    constructor
    · rintro ⟨label, present, matched⟩
      cases known : p.matchLabel? c label with
      | none => simp [known] at matched
      | some short => exact ⟨short, label, present, known⟩
    · rintro ⟨short, label, present, matched⟩
      have defined := (LabelGroup.match?_eq_some_iff.1 matched).2
      refine ⟨label, present, ?_⟩
      simpa [matched] using filled short (List.contains_iff_mem.1 defined)
  rw [Inference.missing, List.mem_filter, Bool.not_eq_true', ← Bool.not_eq_true, found, not_not]

theorem conflicts_eq (p : Policy) (i : Issue) :
    Sync.conflicts p i = (Sync.exclusive.filter fun c => decide (1 < (p.carried i c).length)).map
      fun c => s!"Issue #{i.number} has multiple {c.name} labels: " ++ ", ".intercalate (p.carried i c) := by
  simp only [Sync.conflicts, categoryLabels_eq_carried, ← List.filterMap_eq_filter, List.map_filterMap]
  refine List.filterMap_congr fun c _ => ?_
  by_cases several : 1 < (p.carried i c).length <;> simp [several]

theorem goesToBacklog_iff (p : Policy) (i : Issue) : Sync.goesToBacklog p i = true ↔
    p.automation.intake.toBacklog = true ∧ p.carried i .status = [] := by
  rw [Sync.goesToBacklog, Bool.and_eq_true, statusLabel?_eq_head?, Option.isNone_iff_eq_none, List.head?_eq_none_iff]

/-- All readers of the labels of an issue agree on the labels that it carries. -/
theorem readers_agree (filled : ∀ c, ∀ short ∈ (p.group c).names, short ≠ "") (i : Issue) :
    ReadersAgree p i where
  listed := p.categoryLabels_eq_carried i
  status := p.statusLabel?_eq_head? i
  priority := p.result_priorityLabel i
  reported c := p.shortLabel_eq_headD c i
  missing c := mem_missing_iff (filled c)
  conflicting := p.conflicts_eq i
  backlog := p.goesToBacklog_iff i

/-! ## Bare priorities -/

/-- The starter policy of a library whose priorities stand in labels by themselves. -/
def barePriorities : Policy :=
  let starter := Policy.starter ⟨.library, none, none, none⟩
  { starter with labels.priority.lead := "" }

/-- An issue with several statuses, one of them undefined, and several priorities. -/
def crowded : Issue where
  number := 7
  title := .text "Crash on startup"
  body := .text ""
  labels := .ofList ["status/done", "P3", "status/waiting", "P1", "status/backlog", "priority/P0", "area/api"]
  createdAt := ⟨⟨2026, 3, 1⟩, 9, 0, 0, 0, some 0⟩
  updatedAt := ⟨⟨2026, 3, 1⟩, 9, 0, 0, 0, some 0⟩
  state := .text "open"

theorem readers_of_crowded :
    (∀ c, ∀ short ∈ (barePriorities.group c).names, short ≠ "") ∧
      barePriorities.categoryLabels crowded .status = ["status/backlog", "status/done"] ∧
      (barePriorities.priorityLabel crowded).result = .ok ("P1", some "P1") ∧
      Report.shortLabel barePriorities .area crowded = "api" ∧
      .type ∈ Inference.missing barePriorities crowded ∧
      Sync.conflicts barePriorities crowded =
        ["Issue #7 has multiple status labels: status/backlog, status/done",
          "Issue #7 has multiple priority labels: P1, P3"] ∧
      Sync.goesToBacklog barePriorities crowded = false := by
  have filled : ∀ c, ∀ short ∈ (barePriorities.group c).names, short ≠ "" := by
    intro c
    cases c <;> decide +kernel
  have agree := readers_agree filled crowded
  refine ⟨filled, ?_, ?_, ?_, ?_, ?_, ?_⟩
  · rw [agree.listed]
    decide +kernel
  · rw [agree.priority]
    decide +kernel
  · rw [agree.reported]
    decide +kernel
  · rw [agree.missing]
    decide +kernel
  · rw [agree.conflicting]
    decide +kernel
  · rw [← Bool.not_eq_true, agree.backlog]
    decide +kernel

end Policy

end Triage
