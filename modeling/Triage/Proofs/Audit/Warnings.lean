import Triage.Proofs.Audit.Findings
import Triage.Proofs.Plan
import Triage.Sla
import Triage.Sync

/-!
# What warnings foretell

An audit warns of names that stand twice, of a board without a column for the backlog, and of priorities for
which only the standard hours are known. Plans leave out as many items as there are warnings about repeated
names, and the backlog and the hours of a priority come out as the warnings say.
-/

namespace Triage

/-! ## Looking up -/

namespace Table

variable {α : Type} {t : Table α} {key : String}

/-- A key is found where there is an entry under it. -/
theorem isSome_lookup_iff {entries : List (String × α)} :
    (entries.lookup key).isSome = true ↔ key ∈ entries.map Prod.fst := by
  rw [List.lookup_isSome_iff, List.mem_map]
  simp only [beq_iff_eq]
  exact exists_congr fun entry => and_congr_right fun _ => eq_comm

theorem contains_eq_isSome (t : Table α) (key : String) : t.contains key = (t.get? key).isSome := by
  rw [Bool.eq_iff_iff, contains, keys, get?, List.contains_iff_mem, isSome_lookup_iff]

/-- A key has one entry, so the entry is the one that is found. -/
theorem get?_eq_some_iff {value : α} : t.get? key = some value ↔ (key, value) ∈ t.entries := by
  obtain ⟨entries, nodup⟩ := t
  rw [get?]
  induction entries with
  | nil => simp
  | cons entry rest ih =>
      obtain ⟨first, kept⟩ := entry
      obtain ⟨fresh, distinct⟩ := List.nodup_cons.1 nodup
      rw [List.lookup_cons]
      by_cases here : key = first
      · subst here
        have absent : (key, value) ∉ rest := fun member => fresh (List.mem_map.2 ⟨_, member, rfl⟩)
        simp [absent, eq_comm]
      · have apart : (key == first) = false := beq_false_of_ne here
        simp [apart, here, ih distinct]

end Table

/-! ## Kinds of warnings -/

namespace Warning

def isRepeatedLabel : Warning → Bool
  | .repeatedLabel .. => true
  | _ => false

def isRepeatedColumn : Warning → Bool
  | .repeatedColumn _ => true
  | _ => false

end Warning

/-! ## The hours of a priority -/

/-- Where the hours of a priority come from. -/
inductive HoursOrigin where
  | detection (hours : Number)
  | label (hours : Nat)
  | standard

/-- The hours that a priority gets from there. -/
def HoursOrigin.hours (priority : String) : HoursOrigin → Number
  | .detection hours => hours
  | .label hours => .int hours
  | .standard => .int (standardSla priority)

/-- The number of items that a plan says something about. -/
def Plan.size {α : Type} (plan : Plan α) : Nat := plan.created.length + plan.updated.length + plan.skipped.length

namespace Policy

/-- The blocked detection comes before the labels, and the standard hours last. -/
def hoursOrigin (p : Policy) (priority : String) : HoursOrigin :=
  match p.automation.blocked.sla.get? priority with
  | some hours => .detection hours
  | none =>
    match (p.labels.priority.labels.get? priority).bind LabelDefinition.slaHours with
    | some hours => .label hours
    | none => .standard

/-- The warnings of an audit agree with what the policy leads to. -/
structure WarningsAgree (p : Policy) (a : Audit) : Prop where
  plannedLabels : ∀ remote : List RemoteLabel, (∀ label ∈ remote, label.WellTyped) →
    ∃ plan, (Plan.ofLabels p.allLabels remote).result = .ok plan
  labels : ∀ remote plan, (Plan.ofLabels p.allLabels remote).result = .ok plan →
    a.warnings.countP Warning.isRepeatedLabel + plan.size = p.allLabels.length
  plannedColumns : ∀ remote : List RemoteColumn, (∀ column ∈ remote, column.WellTyped) →
    ∃ plan, (Plan.ofColumns p.board.columns remote).result = .ok plan
  columns : ∀ remote plan, (Plan.ofColumns p.board.columns remote).result = .ok plan →
    a.warnings.countP Warning.isRepeatedColumn + plan.size = p.board.columns.length
  backlog : .noBacklog ∈ a.warnings ↔ p.board.columns ≠ [] ∧ Sync.backlogColumn? p = none
  hours : ∀ priority (n : Nat), .standardSla priority n ∈ a.warnings ↔
    p.automation.blocked.enabled = true ∧ p.labels.priority.defines priority = true ∧
      p.hoursOrigin priority = .standard ∧ p.resolveSla priority none = .int n

end Policy

/-! ## Items of a plan -/

namespace Plan

variable {α : Type} {name : α → String}

/-- A plan has as many items as were compared. -/
theorem size_ofFindings (found : List (α × Finding)) : (ofFindings name found).size = found.length := by
  have same := (perm_ofFindings name found).length_eq
  rwa [List.length_append, List.length_append, List.length_map] at same

theorem size_ofLabels {desired : List LabelSpec} {remote : List RemoteLabel} {plan : Plan LabelSpec}
    (planned : (ofLabels desired remote).result = .ok plan) :
    plan.size = (firstOfEach LabelSpec.name [] desired).length := by
  obtain ⟨-, found, compared, rfl⟩ := result_ofLabels_eq_ok_iff.1 planned
  obtain ⟨items, -⟩ := of_labelFindings_eq_ok compared
  rw [size_ofFindings, ← items, List.length_map]

theorem size_ofColumns {desired : List Column} {remote : List RemoteColumn} {plan : Plan Column}
    (planned : (ofColumns desired remote).result = .ok plan) :
    plan.size = (firstOfEach Column.name [] desired).length := by
  obtain ⟨-, rfl⟩ := result_ofColumns_eq_ok_iff.1 planned
  rw [size_ofFindings, List.length_map]

end Plan

namespace Policy

variable {p : Policy}

/-! ## Repeated names -/

/-- A label either is the first of its name or is warned of. -/
theorem length_repeatedLabels (seen : List (String × String)) (specs : List LabelSpec) :
    (repeatedLabels seen specs).length + (Plan.firstOfEach LabelSpec.name (seen.map Prod.fst) specs).length =
      specs.length := by
  induction specs generalizing seen with
  | nil => rfl
  | cons spec rest ih =>
      have known : (seen.map Prod.fst).contains spec.name = (seen.lookup spec.name).isSome := by
        rw [Bool.eq_iff_iff, List.contains_iff_mem, Table.isSome_lookup_iff]
      rw [repeatedLabels, Plan.firstOfEach, known]
      cases seen.lookup spec.name with
      | none =>
          have later := ih ((spec.name, spec.category) :: seen)
          simp only [List.map_cons] at later
          simp only [Option.isSome_none, Bool.false_eq_true, if_false, List.length_cons]
          omega
      | some first =>
          have later := ih seen
          simp only [Option.isSome_some, if_true, List.length_cons]
          omega

/-- A column either is the first of its name or is warned of. -/
theorem length_repeatedColumns (seen : List String) (columns : List Column) :
    (repeatedColumns seen columns).length + (Plan.firstOfEach Column.name seen columns).length = columns.length := by
  induction columns generalizing seen with
  | nil => rfl
  | cons column rest ih =>
      rw [repeatedColumns, Plan.firstOfEach]
      split
      · have later := ih seen
        simp only [List.length_cons]
        omega
      · have later := ih (column.name :: seen)
        simp only [List.length_cons]
        omega

/-! ## The parts of the warnings -/

theorem mem_repeatedLabels {seen : List (String × String)} {specs : List LabelSpec} {w : Warning}
    (member : w ∈ repeatedLabels seen specs) : ∃ name first second, w = .repeatedLabel name first second := by
  induction specs generalizing seen with
  | nil => cases member
  | cons spec rest ih =>
      rw [repeatedLabels] at member
      split at member
      · obtain rfl | later := List.mem_cons.1 member
        · exact ⟨_, _, _, rfl⟩
        · exact ih later
      · exact ih member

theorem mem_repeatedColumns {seen : List String} {columns : List Column} {w : Warning}
    (member : w ∈ repeatedColumns seen columns) : ∃ name, w = .repeatedColumn name := by
  induction columns generalizing seen with
  | nil => cases member
  | cons column rest ih =>
      rw [repeatedColumns] at member
      split at member
      · obtain rfl | later := List.mem_cons.1 member
        · exact ⟨_, rfl⟩
        · exact ih later
      · exact ih member

theorem mem_ruleWarnings {place : Nat} {rules : List EscalationRule} {w : Warning}
    (member : w ∈ ruleWarnings place rules) : ∃ place days, w = .firesAtOnce place days := by
  induction rules generalizing place with
  | nil => cases member
  | cons rule rest ih =>
      rw [ruleWarnings] at member
      obtain here | later := List.mem_append.1 member
      · split at here
        · exact ⟨_, _, List.mem_singleton.1 here⟩
        · cases here
      · exact ih later

theorem mem_standardSlas_iff {w : Warning} : w ∈ p.standardSlas ↔
    p.automation.blocked.enabled = true ∧ ∃ priority definition, (priority, definition) ∈ p.labels.priority.labels.entries ∧
      p.automation.blocked.sla.contains priority = false ∧ definition.slaHours = none ∧
      w = .standardSla priority (p.slaHours priority) := by
  rw [standardSlas]
  split
  · rename_i enabled
    simp only [enabled, true_and, List.mem_filterMap, Prod.exists]
    refine exists₂_congr fun priority definition => and_congr_right fun _ => ?_
    cases p.automation.blocked.sla.contains priority <;> cases definition.slaHours <;> simp [eq_comm]
  · rename_i disabled
    simp [disabled]

/-- A warning of one kind comes from the part of the audit that looks for it. -/
theorem mem_warnings_iff {w : Warning} : w ∈ p.warnings ↔
    (∃ c, (p.isEmpty c = true ∧ c.isOptional = true) ∧ w = .emptyCategory c) ∨ w ∈ repeatedLabels [] p.allLabels ∨
      (p.board.columns.isEmpty = true ∧ w = .noColumns) ∨ w ∈ repeatedColumns [] p.board.columns ∨
      (p.lacksBacklog = true ∧ w = .noBacklog) ∨ w ∈ p.standardSlas ∨ w ∈ ruleWarnings 0 p.automation.escalation.rules ∨
      (p.lacksDefault = true ∧ w = .defaultPriority p.automation.intake.defaultPriority) := by
  have single (given : Bool) (v : Warning) : (w ∈ if given then [v] else []) ↔ given = true ∧ w = v := by
    cases given <;> simp
  simp only [warnings, List.mem_append, single, List.mem_map, List.mem_filter, Category.mem_all, true_and,
    Bool.and_eq_true, or_assoc, eq_comm (a := w)]

/-- Warnings about repeated names are those of the two looks for them. -/
theorem countP_warnings {q : Warning → Bool} (repeated : ∀ w, q w = true →
      (∃ name first second, w = .repeatedLabel name first second) ∨ ∃ name, w = .repeatedColumn name) :
    p.warnings.countP q =
      (repeatedLabels [] p.allLabels).countP q + (repeatedColumns [] p.board.columns).countP q := by
  -- nothing is counted in any other part
  have none {part : List Warning} (other : ∀ w ∈ part, (∀ name first second, w ≠ .repeatedLabel name first second) ∧
      ∀ name, w ≠ .repeatedColumn name) : part.countP q = 0 := by
    refine List.countP_eq_zero.2 fun w member counted => ?_
    obtain ⟨name, first, second, same⟩ | ⟨name, same⟩ := repeated w counted
    · exact (other w member).1 name first second same
    · exact (other w member).2 name same
  have single {given : Bool} {v : Warning} (other : (∀ name first second, v ≠ .repeatedLabel name first second) ∧
      ∀ name, v ≠ .repeatedColumn name) : (if given then [v] else []).countP q = 0 := by
    refine none fun w member => ?_
    cases given with
    | false => cases member
    | true => exact List.mem_singleton.1 member ▸ other
  have categories (cs : List Category) : (cs.map Warning.emptyCategory).countP q = 0 := by
    refine none fun w member => ?_
    obtain ⟨_, -, rfl⟩ := List.mem_map.1 member
    simp
  have hours : p.standardSlas.countP q = 0 := by
    refine none fun w member => ?_
    obtain ⟨-, _, _, -, -, -, rfl⟩ := mem_standardSlas_iff.1 member
    simp
  have rules : (ruleWarnings 0 p.automation.escalation.rules).countP q = 0 := by
    refine none fun w member => ?_
    obtain ⟨_, _, rfl⟩ := mem_ruleWarnings member
    simp
  rw [warnings]
  simp only [List.countP_append, categories, hours, rules]
  rw [single (by simp), single (by simp), single (by simp)]
  omega

/-- There are as many warnings about labels as there are labels behind the first of their name. -/
theorem countP_isRepeatedLabel (p : Policy) :
    p.warnings.countP Warning.isRepeatedLabel = (repeatedLabels [] p.allLabels).length := by
  have all : (repeatedLabels [] p.allLabels).countP Warning.isRepeatedLabel = (repeatedLabels [] p.allLabels).length := by
    refine List.countP_eq_length.2 fun w member => ?_
    obtain ⟨_, _, _, rfl⟩ := mem_repeatedLabels member
    rfl
  have none : (repeatedColumns [] p.board.columns).countP Warning.isRepeatedLabel = 0 := by
    refine List.countP_eq_zero.2 fun w member => ?_
    obtain ⟨_, rfl⟩ := mem_repeatedColumns member
    exact Bool.false_ne_true
  rw [countP_warnings, all, none, Nat.add_zero]
  intro w counted
  cases w <;> simp [Warning.isRepeatedLabel] at counted ⊢

theorem countP_isRepeatedColumn (p : Policy) :
    p.warnings.countP Warning.isRepeatedColumn = (repeatedColumns [] p.board.columns).length := by
  have all : (repeatedColumns [] p.board.columns).countP Warning.isRepeatedColumn =
      (repeatedColumns [] p.board.columns).length := by
    refine List.countP_eq_length.2 fun w member => ?_
    obtain ⟨_, rfl⟩ := mem_repeatedColumns member
    rfl
  have none : (repeatedLabels [] p.allLabels).countP Warning.isRepeatedColumn = 0 := by
    refine List.countP_eq_zero.2 fun w member => ?_
    obtain ⟨_, _, _, rfl⟩ := mem_repeatedLabels member
    exact Bool.false_ne_true
  rw [countP_warnings, all, none, Nat.zero_add]
  intro w counted
  cases w <;> simp [Warning.isRepeatedColumn] at counted ⊢

/-! ## The backlog -/

theorem noBacklog_mem_warnings_iff : .noBacklog ∈ p.warnings ↔ p.lacksBacklog = true := by
  rw [mem_warnings_iff]
  constructor
  · rintro (⟨_, -, same⟩ | member | ⟨-, same⟩ | member | ⟨lacks, -⟩ | member | member | ⟨-, same⟩)
    · cases same
    · obtain ⟨_, _, _, same⟩ := mem_repeatedLabels member
      cases same
    · cases same
    · obtain ⟨_, same⟩ := mem_repeatedColumns member
      cases same
    · exact lacks
    · obtain ⟨-, _, _, -, -, -, same⟩ := mem_standardSlas_iff.1 member
      cases same
    · obtain ⟨_, _, same⟩ := mem_ruleWarnings member
      cases same
    · cases same
  · exact fun lacks => .inr (.inr (.inr (.inr (.inl ⟨lacks, rfl⟩))))

/-- A board lacks a column for the backlog where new issues have no column to go to. -/
theorem lacksBacklog_iff : p.lacksBacklog = true ↔ p.board.columns ≠ [] ∧ Sync.backlogColumn? p = none := by
  rw [lacksBacklog, Sync.backlogColumn?]
  cases p.columnOfStatus? backlogStatus with
  | some column => simp
  | none => simp

/-! ## Hours -/

theorem resolveSla_none (p : Policy) (priority : String) :
    p.resolveSla priority none = (p.hoursOrigin priority).hours priority := by
  rw [resolveSla, hoursOrigin, slaHours]
  cases p.automation.blocked.sla.get? priority with
  | some hours => rfl
  | none =>
      cases (p.labels.priority.labels.get? priority).bind LabelDefinition.slaHours with
      | some hours => rfl
      | none => rfl

/-- The standard hours are taken where neither the blocked detection nor the label has any. -/
theorem hoursOrigin_eq_standard_iff {priority : String} {definition : LabelDefinition}
    (defined : p.labels.priority.labels.get? priority = some definition) : p.hoursOrigin priority = .standard ↔
      p.automation.blocked.sla.contains priority = false ∧ definition.slaHours = none := by
  rw [hoursOrigin, Table.contains_eq_isSome, defined]
  cases p.automation.blocked.sla.get? priority with
  | some hours => simp
  | none => cases given : definition.slaHours <;> simp [given]

theorem standardSla_mem_warnings_iff {priority : String} {n : Nat} : .standardSla priority n ∈ p.warnings ↔
    .standardSla priority n ∈ p.standardSlas := by
  rw [mem_warnings_iff]
  constructor
  · rintro (⟨_, -, same⟩ | member | ⟨-, same⟩ | member | ⟨-, same⟩ | member | member | ⟨-, same⟩)
    · cases same
    · obtain ⟨_, _, _, same⟩ := mem_repeatedLabels member
      cases same
    · cases same
    · obtain ⟨_, same⟩ := mem_repeatedColumns member
      cases same
    · cases same
    · exact member
    · obtain ⟨_, _, same⟩ := mem_ruleWarnings member
      cases same
    · cases same
  · exact fun member => .inr (.inr (.inr (.inr (.inr (.inl member)))))

/-- The hours that are warned of are those that the priority gets. -/
theorem standardSla_mem_standardSlas_iff {priority : String} {n : Nat} : .standardSla priority n ∈ p.standardSlas ↔
    p.automation.blocked.enabled = true ∧ p.labels.priority.defines priority = true ∧
      p.hoursOrigin priority = .standard ∧ p.resolveSla priority none = .int n := by
  rw [mem_standardSlas_iff]
  refine and_congr_right fun _ => ?_
  constructor
  · rintro ⟨_, definition, member, absent, unset, same⟩
    obtain ⟨rfl, rfl⟩ := Warning.standardSla.inj same
    have defined := Table.get?_eq_some_iff.2 member
    have standard := (hoursOrigin_eq_standard_iff defined).2 ⟨absent, unset⟩
    refine ⟨by rw [LabelGroup.defines, Table.contains_eq_isSome, defined]; rfl, standard, ?_⟩
    rw [resolveSla_none, standard, slaHours, defined, Option.bind_some, unset]
    rfl
  · rintro ⟨defines, standard, hours⟩
    rw [LabelGroup.defines, Table.contains_eq_isSome] at defines
    obtain ⟨definition, defined⟩ := Option.isSome_iff_exists.1 defines
    obtain ⟨absent, unset⟩ := (hoursOrigin_eq_standard_iff defined).1 standard
    refine ⟨priority, definition, Table.get?_eq_some_iff.1 defined, absent, unset, ?_⟩
    rw [resolveSla_none, standard] at hours
    rw [slaHours, defined, Option.bind_some, unset]
    congr
    exact (Int.ofNat.inj (Number.int.inj hours)).symm

/-! ## Agreement -/

theorem warningsAgree_audit (p : Policy) : p.WarningsAgree p.audit where
  plannedLabels _ := Plan.exists_result_ofLabels p.allLabels
  labels _ _ planned := by
    rw [audit, countP_isRepeatedLabel, Plan.size_ofLabels planned]
    exact length_repeatedLabels [] p.allLabels
  plannedColumns _ := (Plan.converges_ofColumns fun _ => .null).answers p.board.columns _
  columns _ _ planned := by
    rw [audit, countP_isRepeatedColumn, Plan.size_ofColumns planned]
    exact length_repeatedColumns [] p.board.columns
  backlog := noBacklog_mem_warnings_iff.trans lacksBacklog_iff
  hours _ _ := standardSla_mem_warnings_iff.trans standardSla_mem_standardSlas_iff

/-- An audit ends without an answer exactly where a rule that is pointed out has a delay of too many digits.
Otherwise its warnings agree with the plans, the backlog and the hours of the policy. -/
theorem warnings_foretell (p : Policy) :
    ((∃ rule ∈ p.automation.escalation.rules,
        rule.afterDays ≤ 0 ∧ 10 ^ Decimal.digitLimit ≤ rule.afterDays.natAbs) ∧
      p.check.result = .error (.integer .tooLongToWrite)) ∨
    (∀ rule ∈ p.automation.escalation.rules,
        rule.afterDays ≤ 0 → rule.afterDays.natAbs < 10 ^ Decimal.digitLimit) ∧
    ∃ a, p.check.result = .ok a ∧ p.WarningsAgree a := by
  obtain failed | ⟨short, answered⟩ := p.check_cases
  · exact .inl failed
  · exact .inr ⟨short, p.audit, answered, p.warningsAgree_audit⟩

/-- A new project's policy with a column listed twice and a rule that was due long ago. -/
def crammed : Policy :=
  { overdue with board := { overdue.board with columns := overdue.board.columns ++ overdue.board.columns.take 1 } }

/-- Every plan of its columns leaves one out, and no audit warns of that. -/
theorem crammed_is_not_foretold :
    (∃ plan, (Plan.ofColumns crammed.board.columns []).result = .ok plan ∧
      plan.size + 1 = crammed.board.columns.length) ∧ ¬∃ a, crammed.check.result = .ok a := by
  have due : crammed.automation.escalation.rules.any hasLongDelay = true := overdue_is_due
  refine ⟨⟨_, rfl, by decide⟩, ?_⟩
  rintro ⟨a, answered⟩
  rw [result_check, if_pos due] at answered
  cases answered

end Policy

end Triage
