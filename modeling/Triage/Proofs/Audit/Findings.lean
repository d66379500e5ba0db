import Mathlib.Algebra.Ring.Nat
import Triage.Policy.Starter
import Triage.Proofs.Audit

/-!
# What audits find

Every step of an audit adds its findings behind those that are there and lets go of the validity when a
defect is among them. So an audit finds each defect of the policy once, in the order of the places, and
it ends without an answer only where a delay has too many digits to be written.
-/

namespace Triage

/-- Numbers of more digits than the limit begin with the power of ten that has one more. -/
theorem Decimal.isTooLong_iff {n : Int} : isTooLong n = true ↔ 10 ^ digitLimit ≤ n.natAbs := by
  have few : (toString n.natAbs).length ≤ digitLimit ↔ n.natAbs < 10 ^ digitLimit :=
    Nat.length_repr_le_iff (by decide)
  rw [isTooLong, decide_eq_true_eq]
  omega

namespace Audit

/-- The audit with further findings. -/
def also (a : Audit) (defects : List Defect) (warnings : List Warning) : Audit :=
  ⟨a.valid && defects.isEmpty, a.defects ++ defects, a.warnings ++ warnings⟩

variable {α : Type} {a : Audit} {ds : List Defect} {ws : List Warning}

@[simp] theorem also_nil : a.also [] [] = a := by
  simp [also]

@[simp] theorem also_also (ds' : List Defect) (ws' : List Warning) :
    (a.also ds ws).also ds' ws' = a.also (ds ++ ds') (ws ++ ws') := by
  cases ds <;> simp [also]

@[simp] theorem reject_eq_also (d : Defect) : a.reject d = a.also [d] [] := by
  simp [reject, also]

@[simp] theorem warn_eq_also (w : Warning) : a.warn w = a.also [] [w] := by
  simp [warn, also]

/-- A step that adds findings of its own adds those of every item. -/
theorem foldl_also {step : Audit → α → Audit} {defects : α → List Defect} {warnings : α → List Warning}
    (each : ∀ a x, step a x = a.also (defects x) (warnings x)) (items : List α) (a : Audit) :
    items.foldl step a = a.also (items.flatMap defects) (items.flatMap warnings) := by
  induction items generalizing a with
  | nil => simp
  | cons x rest ih => rw [List.foldl_cons, each, ih, also_also, List.flatMap_cons, List.flatMap_cons]

end Audit

/-- What is said of the members with a property. -/
theorem flatMap_ite {α β : Type} (p : α → Bool) (f : α → β) (items : List α) :
    (items.flatMap fun x => if p x then [f x] else []) = (items.filter p).map f := by
  induction items with
  | nil => rfl
  | cons x rest ih => cases given : p x <;> simp [given, ih]

namespace Policy

variable {p : Policy} {a : Audit}

/-! ## The steps -/

theorem foldl_auditCategory (categories : List Category) : categories.foldl p.auditCategory a =
    a.also ((categories.filter fun c => p.isEmpty c && !c.isOptional).map .emptyCategory)
      ((categories.filter fun c => p.isEmpty c && c.isOptional).map .emptyCategory) := by
  rw [← flatMap_ite, ← flatMap_ite]
  refine Audit.foldl_also (fun a c => ?_) categories a
  rw [auditCategory]
  cases p.isEmpty c <;> cases c.isOptional <;> simp

theorem auditLabels_eq (seen : List (String × String)) (specs : List LabelSpec) :
    auditLabels seen a specs = a.also [] (repeatedLabels seen specs) := by
  induction specs generalizing seen a with
  | nil => simp [auditLabels, repeatedLabels]
  | cons spec rest ih =>
      rw [auditLabels, repeatedLabels]
      split
      · simp [ih]
      · simp [ih]

theorem auditColumns_eq (seen : List String) (columns : List Column) : p.auditColumns seen a columns =
    a.also ((columns.filter fun column => (p.columnStatus? column).isNone).map fun column =>
      .columnStatus column.name column.mapsTo) (repeatedColumns seen columns) := by
  induction columns generalizing seen a with
  | nil => simp [auditColumns, repeatedColumns]
  | cons column rest ih =>
      rw [auditColumns, repeatedColumns, ih]
      cases repeated : seen.contains column.name with
      | false =>
          have fresh : column.name ∉ seen := by simpa using repeated
          cases mapped : (p.columnStatus? column).isNone <;> simp [mapped, List.insert_of_not_mem fresh]
      | true =>
          have known : column.name ∈ seen := by simpa using repeated
          cases mapped : (p.columnStatus? column).isNone <;> simp [mapped, List.insert_of_mem known]

theorem foldl_auditSla (priorities : List String) : priorities.foldl p.auditSla a =
    a.also ((priorities.filter fun priority => !p.labels.priority.defines priority).map .slaPriority) [] := by
  have each : ∀ (a : Audit) (priority : String), p.auditSla a priority =
      a.also (if !p.labels.priority.defines priority then [.slaPriority priority] else []) [] := by
    intro a priority
    rw [auditSla]
    cases p.labels.priority.defines priority <;> simp
  rw [← flatMap_ite, Audit.foldl_also each, List.flatMap_eq_nil_iff.2 fun _ _ => rfl]

theorem standardSlas_eq : (if p.automation.blocked.enabled then
      p.labels.priority.labels.entries.foldl p.auditHours a else a) = a.also [] p.standardSlas := by
  rw [standardSlas]
  split
  · induction p.labels.priority.labels.entries generalizing a with
    | nil => simp
    | cons entry rest ih =>
        rw [List.foldl_cons, ih, auditHours]
        split <;> simp_all
  · simp

theorem foldl_auditEndpoint (place : Nat) (endpoints : List (String × String)) :
    endpoints.foldl (p.auditEndpoint place) a = a.also (endpoints.filterMap fun (field, priority) =>
      if p.labels.priority.defines priority then none else some (.rulePriority place field priority)) [] := by
  induction endpoints generalizing a with
  | nil => simp
  | cons endpoint rest ih =>
      rw [List.foldl_cons, ih, auditEndpoint]
      split <;> simp_all

/-! ## Delays that cannot be written -/

/-- A rule that is pointed out, with a delay of too many digits. -/
def hasLongDelay (rule : EscalationRule) : Bool := rule.afterDays ≤ 0 && Decimal.isTooLong rule.afterDays

theorem hasLongDelay_iff {rule : EscalationRule} : hasLongDelay rule = true ↔
    rule.afterDays ≤ 0 ∧ 10 ^ Decimal.digitLimit ≤ rule.afterDays.natAbs := by
  rw [hasLongDelay, Bool.and_eq_true, decide_eq_true_eq, Decimal.isTooLong_iff]

theorem auditRules_eq (place : Nat) (rules : List EscalationRule) : p.auditRules place a rules =
    if rules.any hasLongDelay then .error (.integer .tooLongToWrite)
    else .ok (a.also (p.ruleDefects place rules) (ruleWarnings place rules)) := by
  induction rules generalizing place a with
  | nil => simp [auditRules, ruleDefects, ruleWarnings]
  | cons rule rest ih =>
      rw [auditRules, foldl_auditEndpoint, auditDelay, ruleDefects, ruleWarnings, List.any_cons, hasLongDelay]
      by_cases later : 0 < rule.afterDays
      · have never : ¬ rule.afterDays ≤ 0 := by omega
        simp [later, never, ih, bind, Except.bind]
      · have atOnce : rule.afterDays ≤ 0 := by omega
        cases long : Decimal.isTooLong rule.afterDays <;> simp [later, atOnce, ih, bind, Except.bind]

/-- An audit comes to the findings of all its steps. -/
theorem result_check (p : Policy) : p.check.result =
    if p.automation.escalation.rules.any hasLongDelay then .error (.integer .tooLongToWrite) else .ok p.audit := by
  have warned : ∀ (given : Bool) (a : Audit) (w : Warning),
      (if given then a.warn w else a) = a.also [] (if given then [w] else []) := by
    intro given a w
    cases given <;> simp
  have start : ∀ ds ws, Audit.start.also ds ws = ⟨ds.isEmpty, ds, ws⟩ := fun ds ws => by simp [Audit.also, Audit.start]
  simp only [check, foldl_auditCategory, auditLabels_eq, warned, auditColumns_eq, foldl_auditSla, standardSlas_eq,
    auditRules_eq, Audit.also_also, Run.result_bind, Run.result_liftM, Run.result_note, Run.result_pure]
  cases p.automation.escalation.rules.any hasLongDelay with
  | true => rfl
  | false =>
      simp only [Bool.false_eq_true, if_false, bind, Except.bind, start]
      simp [audit, defects, warnings, Audit.also, List.append_assoc]

/-- An audit ends without an answer exactly where a rule that is pointed out has a delay of too many digits. -/
theorem check_cases (p : Policy) :
    (∃ rule ∈ p.automation.escalation.rules,
        rule.afterDays ≤ 0 ∧ 10 ^ Decimal.digitLimit ≤ rule.afterDays.natAbs) ∧
      p.check.result = .error (.integer .tooLongToWrite) ∨
    (∀ rule ∈ p.automation.escalation.rules,
        rule.afterDays ≤ 0 → rule.afterDays.natAbs < 10 ^ Decimal.digitLimit) ∧
      p.check.result = .ok p.audit := by
  cases long : p.automation.escalation.rules.any hasLongDelay with
  | true =>
      obtain ⟨rule, member, found⟩ := List.any_eq_true.1 long
      exact .inl ⟨⟨rule, member, hasLongDelay_iff.1 found⟩, by rw [result_check, if_pos long]⟩
  | false =>
      refine .inr ⟨fun rule member atOnce => ?_, by rw [result_check, if_neg (by simp [long])]⟩
      exact Nat.lt_of_not_le fun digits => List.any_eq_false.1 long rule member (hasLongDelay_iff.2 ⟨atOnce, digits⟩)

/-! ## Counting the findings -/

/-- Two defects at most for each rule, one for each end that is not defined. -/
theorem length_ruleDefects (place : Nat) (rules : List EscalationRule) : (p.ruleDefects place rules).length =
    (rules.flatMap fun rule => [rule.source, rule.target]).countP fun priority =>
      !p.labels.priority.defines priority := by
  induction rules generalizing place with
  | nil => rfl
  | cons rule rest ih =>
      rw [ruleDefects, endpoints, List.length_append, ih, List.flatMap_cons, List.countP_append]
      congr 1
      cases source : p.labels.priority.defines rule.source <;>
        cases target : p.labels.priority.defines rule.target <;> simp [source, target]

theorem length_defects (p : Policy) : p.defects.length =
    [Category.status, .priority, .type].countP p.isEmpty
    + p.board.columns.countP (fun column => (p.columnStatus? column).isNone)
    + p.automation.blocked.sla.keys.countP (fun priority => !p.labels.priority.defines priority)
    + (p.automation.escalation.rules.flatMap fun rule => [rule.source, rule.target]).countP
        (fun priority => !p.labels.priority.defines priority) := by
  have needed : (Category.all.filter fun c => p.isEmpty c && !c.isOptional).length =
      [Category.status, .priority, .type].countP p.isEmpty := by
    rw [← List.countP_eq_length_filter]
    simp [Category.all, Category.isOptional, List.countP_cons]
  simp only [defects, List.length_append, List.length_map, needed, length_ruleDefects,
    List.countP_eq_length_filter]

/-- What an audit can find wrong is that a needed category has no labels, that a column has no status, or
that hours or a rule are about a priority that is not defined. -/
theorem defects_eq_nil_iff {p : Policy} : p.defects = [] ↔
    (∀ c ∈ [Category.status, .priority, .type], p.isEmpty c = false) ∧
    (∀ column ∈ p.board.columns, p.columnStatus? column ≠ none) ∧
    (∀ priority ∈ p.automation.blocked.sla.keys, p.labels.priority.defines priority = true) ∧
    ∀ rule ∈ p.automation.escalation.rules, p.labels.priority.defines rule.source = true ∧
      p.labels.priority.defines rule.target = true := by
  have needed : (∀ c : Category, c.isOptional = false → p.isEmpty c = false) ↔
      ∀ c ∈ [Category.status, .priority, .type], p.isEmpty c = false := by
    constructor
    · intro filled c member
      refine filled c ?_
      rcases (by simpa using member : c = .status ∨ c = .priority ∨ c = .type) with rfl | rfl | rfl <;> rfl
    · intro filled c required
      refine filled c ?_
      cases c <;> simp [Category.isOptional] at required ⊢
  rw [← needed]
  simpa [audit, Option.isSome_iff_ne_none] using p.valid_iff

/-- An audit ends without an answer exactly where a rule that is pointed out has a delay of too many digits.
Otherwise it holds one defect for each needed category without labels, each column without a status, each
priority with hours and each end of a rule that is not defined, and it is valid where there are none. -/
theorem check_counts (p : Policy) :
    ((∃ rule ∈ p.automation.escalation.rules,
        rule.afterDays ≤ 0 ∧ 10 ^ Decimal.digitLimit ≤ rule.afterDays.natAbs) ∧
      p.check.result = .error (.integer .tooLongToWrite)) ∨
    (∀ rule ∈ p.automation.escalation.rules,
        rule.afterDays ≤ 0 → rule.afterDays.natAbs < 10 ^ Decimal.digitLimit) ∧
    ∃ a, p.check.result = .ok a ∧
      (a.valid = true ↔ a.defects = []) ∧
      a.defects.length =
        [Category.status, .priority, .type].countP p.isEmpty
        + p.board.columns.countP (fun column => (p.columnStatus? column).isNone)
        + p.automation.blocked.sla.keys.countP (fun priority => !p.labels.priority.defines priority)
        + (p.automation.escalation.rules.flatMap fun rule => [rule.source, rule.target]).countP
            (fun priority => !p.labels.priority.defines priority) ∧
      (a.valid = true ↔
        (∀ c ∈ [Category.status, .priority, .type], p.isEmpty c = false) ∧
        (∀ column ∈ p.board.columns, p.columnStatus? column ≠ none) ∧
        (∀ priority ∈ p.automation.blocked.sla.keys, p.labels.priority.defines priority = true) ∧
        ∀ rule ∈ p.automation.escalation.rules, p.labels.priority.defines rule.source = true ∧
          p.labels.priority.defines rule.target = true) := by
  have valid : p.audit.valid = true ↔ p.audit.defects = [] := List.isEmpty_iff
  obtain failed | ⟨short, answered⟩ := p.check_cases
  · exact .inl failed
  · exact .inr ⟨short, p.audit, answered, valid, p.length_defects, valid.trans defects_eq_nil_iff⟩

/-- A new project's policy with a rule that was due long ago. -/
def overdue : Policy :=
  let base := starter ⟨.backend, none, none, none⟩
  { base with automation := { base.automation with
      escalation := ⟨true, [⟨"P1", "P0", -(10 ^ Decimal.digitLimit : Nat)⟩]⟩ } }

/-- The delay of its rule has a digit too many. -/
theorem overdue_is_due : overdue.automation.escalation.rules.any hasLongDelay = true := by
  have size : (-(10 ^ Decimal.digitLimit : Nat) : Int).natAbs = 10 ^ Decimal.digitLimit := by
    rw [Int.natAbs_neg, Int.natAbs_natCast]
  have long : hasLongDelay ⟨"P1", "P0", -(10 ^ Decimal.digitLimit : Nat)⟩ = true :=
    hasLongDelay_iff.2 ⟨Int.neg_nonpos_of_nonneg (Int.natCast_nonneg _), Nat.le_of_eq size.symm⟩
  exact List.any_eq_true.2 ⟨_, List.mem_singleton_self _, long⟩

/-- Its audit gives no answer, though there is nothing wrong with it. -/
theorem overdue_has_no_audit : overdue.defects = [] ∧ ¬∃ a, overdue.check.result = .ok a := by
  constructor
  · decide
  · rintro ⟨a, answered⟩
    rw [result_check, if_pos overdue_is_due] at answered
    cases answered

end Policy

end Triage
