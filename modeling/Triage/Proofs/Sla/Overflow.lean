import Triage.Proofs.Audit.Findings
import Triage.Proofs.Policy.Text
import Triage.Proofs.Sla.Standings
import Triage.Report

/-!
# Hours that are too many

An evaluation reckons in binary64 numbers. It answers with one standing for each open issue, and there is a
report, unless a priority of some open issue allows so many hours that there is no such number: then neither is
there for any issue.
-/

namespace Triage

theorem Issue.filterAuxM_isOpen {issues : List Issue} (texts : ∀ i ∈ issues, ∃ s, i.state = .text s)
    (before : List Issue) :
    issues.filterAuxM isOpen before = .ok ((issues.filter (·.IsOpen)).reverse ++ before) := by
  induction issues generalizing before with
  | nil => rfl
  | cons i rest ih =>
      obtain ⟨text, others⟩ := List.forall_mem_cons.1 texts
      rw [List.filterAuxM, isOpen_eq text]
      by_cases stands : i.IsOpen
      · rw [List.filter_cons_of_pos (by simpa using stands), List.reverse_cons, List.append_assoc]
        change rest.filterAuxM isOpen (cond (decide i.IsOpen) (i :: before) before) = _
        rw [decide_eq_true stands]
        exact ih others (i :: before)
      · rw [List.filter_cons_of_neg (by simpa using stands)]
        change rest.filterAuxM isOpen (cond (decide i.IsOpen) (i :: before) before) = _
        rw [decide_eq_false stands]
        exact ih others before

theorem Issue.openOnes_eq {issues : List Issue} (texts : ∀ i ∈ issues, ∃ s, i.state = .text s) :
    openOnes issues = .ok (issues.filter (·.IsOpen)) := by
  rw [openOnes, List.filterM, filterAuxM_isOpen texts, List.append_nil]
  exact congrArg Except.ok (List.reverse_reverse _)

/-- The report on some open issues and their evaluation. -/
def Report.summary (p : Policy) (closed : ℤ) (now : Time.Moment) (opened : List Issue)
    (results : List (Standing Float)) : Report Float :=
  let draft : Report Float := {
    totalOpen := opened.length
    totalClosed := closed
    byStatus := count (opened.map (shortLabel p .status))
    byPriority := count (opened.map (shortLabel p .priority))
    byType := count (opened.map (shortLabel p .type))
    blocked := countBlocked p opened
    averageAge := Quantity.round 1 (meanAge now opened)
    health := healthScore (countBlocked p opened)
      (countOf (count (opened.map (shortLabel p .priority))) topPriority) (meanAge now opened : Float)
    generatedAt := now
    breaches := results.filter (·.urgency == .blocked)
    recommendations := [] }
  { draft with recommendations := recommend draft }

namespace Sla

section

variable {p : Policy} {now : Time.Moment} {i : Issue} {issues : List Issue}

/-- The priority of an issue allows more hours than there are binary64 numbers for. -/
def Overflows (p : Policy) (i : Issue) : Prop :=
  ∃ priority label hours, (p.priorityLabel i).result = .ok (priority, label) ∧
    p.resolveSla priority none = .int hours ∧ Decimal.overflow ≤ hours.natAbs

/-- A standing is that of an issue. -/
structure Concerns (p : Policy) (i : Issue) (s : Standing Float) : Prop where
  number : s.number = i.number
  title : s.title = i.title
  priority : ∃ label, (p.priorityLabel i).result = .ok (s.priority, label)
  sla : s.sla = p.resolveSla s.priority none

theorem overflows_iff : Overflows p i ↔
    (p.resolveSla ((p.carriedNames i .priority).headD fallbackPriority) none).toFloat? = none := by
  constructor
  · rintro ⟨priority, label, hours, source, allowed, many⟩
    rw [p.result_priorityLabel, Except.ok.injEq, Prod.mk.injEq] at source
    rw [source.1, allowed]
    exact Decimal.ofInt?_eq_none_iff.2 many
  · intro unread
    cases allowed : p.resolveSla ((p.carriedNames i .priority).headD fallbackPriority) none with
    | float x =>
        rw [allowed] at unread
        cases unread
    | int hours =>
        rw [allowed] at unread
        exact ⟨_, _, hours, p.result_priorityLabel i, allowed, Decimal.ofInt?_eq_none_iff.1 unread⟩

/-- An open issue has a standing unless the hours are too many. -/
theorem standingOf_cases (p : Policy) (now : Time.Moment) (i : Issue) :
    ¬ Overflows p i ∧ (∃ s, standingOf Float p none now i = .ok s ∧ Concerns p i s) ∨
      Overflows p i ∧ standingOf Float p none now i = .error .tooLarge := by
  rw [overflows_iff]
  have read (n : Number) : (Quantity.ofNumber? n : Option Float) = n.toFloat? := rfl
  unfold standingOf standing
  simp only [read]
  cases (p.resolveSla ((p.carriedNames i .priority).headD fallbackPriority) none).toFloat? with
  | none => exact .inr ⟨rfl, rfl⟩
  | some hours => exact .inl ⟨by simp, _, rfl, rfl, rfl, ⟨_, p.result_priorityLabel i⟩, rfl⟩

/-- A list is gone through unless there is a fault at some element. -/
theorem mapM_cases {β γ : Type} {f : β → Except Fault γ} {R : β → γ → Prop} {fails : β → Prop} {fault : Fault}
    (each : ∀ x, ¬ fails x ∧ (∃ y, f x = .ok y ∧ R x y) ∨ fails x ∧ f x = .error fault) (xs : List β) :
    (∀ x ∈ xs, ¬ fails x) ∧ (∃ ys, xs.mapM f = .ok ys ∧ List.Forall₂ R xs ys) ∨
      (∃ x ∈ xs, fails x) ∧ xs.mapM f = .error fault := by
  induction xs with
  | nil => exact .inl ⟨by simp, [], rfl, .nil⟩
  | cons x rest ih =>
      rw [List.mapM_cons]
      obtain ⟨sound, y, first, related⟩ | ⟨failing, first⟩ := each x
      · obtain ⟨others, ys, later, relate⟩ | ⟨⟨other, member, failing⟩, later⟩ := ih
        · refine .inl ⟨List.forall_mem_cons.2 ⟨sound, others⟩, y :: ys, ?_, .cons related relate⟩
          rw [first, later]
          rfl
        · refine .inr ⟨⟨other, List.mem_cons_of_mem x member, failing⟩, ?_⟩
          rw [first, later]
          rfl
      · refine .inr ⟨⟨x, List.mem_cons_self, failing⟩, ?_⟩
        rw [first]
        rfl

theorem inOrder_perm {α : Type} [Quantity α] (listed : List (Standing α)) : (inOrder listed).Perm listed := by
  unfold inOrder
  split
  · exact List.mergeSort_perm _ _
  · exact Order.sortLoosely_perm _ _

/-! ## Evaluations and reports -/

theorem filter_filter_isOpen (issues : List Issue) :
    (issues.filter (·.IsOpen)).filter (·.IsOpen) = issues.filter (·.IsOpen) :=
  List.filter_eq_self.2 fun _ member => (List.mem_filter.1 member).2

theorem result_evaluate_open (texts : ∀ i ∈ issues, ∃ s, i.state = .text s) (now : Time.Moment) :
    (evaluate p none now (issues.filter (·.IsOpen)) : Run (List (Standing Float))).result =
      (evaluate p none now issues).result := by
  have texts' : ∀ i ∈ issues.filter (·.IsOpen), ∃ s, i.state = .text s :=
    fun i member => texts i (List.mem_filter.1 member).1
  rw [result_evaluate texts', result_evaluate texts, filter_filter_isOpen]

/-- There is a report where there is an evaluation. -/
theorem result_build (texts : ∀ i ∈ issues, ∃ s, i.state = .text s) (closed : ℤ) :
    (Report.build p closed now issues : Run (Report Float)).result =
      (evaluate p none now issues).result.map (Report.summary p closed now (issues.filter (·.IsOpen))) := by
  rw [Report.build, Run.result_bind, Run.result_liftM, Issue.openOnes_eq texts, ← result_evaluate_open texts]
  change (evaluate p none now (issues.filter (·.IsOpen)) >>= _).result = _
  rw [Run.result_bind]
  cases (evaluate p none now (issues.filter (·.IsOpen)) : Run (List (Standing Float))).result <;> rfl

theorem evaluation_cases (texts : ∀ i ∈ issues, ∃ s, i.state = .text s) (now : Time.Moment) :
    (∀ i ∈ issues, i.IsOpen → ¬ Overflows p i) ∧
      (∃ listed results, List.Forall₂ (Concerns p) (issues.filter (·.IsOpen)) listed ∧
        (evaluate p none now issues).result = .ok results ∧ results.Perm listed) ∨
    (∃ i ∈ issues, i.IsOpen ∧ Overflows p i) ∧
      (evaluate p none now issues : Run (List (Standing Float))).result = .error .tooLarge := by
  have answer : (evaluate p none now issues : Run (List (Standing Float))).result =
      ((issues.filter (·.IsOpen)).mapM (standingOf Float p none now)).map inOrder := result_evaluate texts
  obtain ⟨fit, listed, answered, concerned⟩ | ⟨⟨i, member, many⟩, failed⟩ :=
    mapM_cases (standingOf_cases p now) (issues.filter (·.IsOpen))
  · rw [answered] at answer
    refine .inl ⟨fun i member isOpen => fit i ?_, listed, _, concerned, answer, inOrder_perm listed⟩
    exact List.mem_filter.2 ⟨member, decide_eq_true isOpen⟩
  · rw [failed] at answer
    obtain ⟨member, isOpen⟩ := List.mem_filter.1 member
    exact .inr ⟨⟨i, member, of_decide_eq_true isOpen, many⟩, answer⟩

/-- An evaluation answers for every open issue and there is a report, unless the hours of some open issue are too
many: then there is neither. -/
theorem answers_unless_overflow (texts : ∀ i ∈ issues, ∃ s, i.state = .text s) (now : Time.Moment) (closed : ℤ) :
    ((∀ i ∈ issues, i.IsOpen → ¬ Overflows p i) ∧
      (∃ listed results, List.Forall₂ (Concerns p) (issues.filter (·.IsOpen)) listed ∧
        (evaluate p none now issues).result = .ok results ∧ results.Perm listed) ∧
      ∃ report : Report Float, (Report.build p closed now issues).result = .ok report ∧
        report.totalOpen = (issues.filter (·.IsOpen)).length) ∨
    ((∃ i ∈ issues, i.IsOpen ∧ Overflows p i) ∧
      (evaluate p none now issues : Run (List (Standing Float))).result = .error .tooLarge ∧
      (Report.build p closed now issues : Run (Report Float)).result = .error .tooLarge) := by
  obtain ⟨fit, listed, results, concerned, evaluated, all⟩ | ⟨overflows, failed⟩ := evaluation_cases texts now
  · have built : (Report.build p closed now issues).result =
        .ok (Report.summary p closed now (issues.filter (·.IsOpen)) results) := by
      rw [result_build texts, evaluated]
      rfl
    exact .inl ⟨fit, ⟨listed, results, concerned, evaluated, all⟩, _, built, rfl⟩
  · refine .inr ⟨overflows, failed, ?_⟩
    rw [result_build texts, failed]
    rfl

end

theorem not_overflows_march : ∀ i ∈ march, ¬ Overflows newProject i := by
  have allowed : ∀ i ∈ march,
      newProject.resolveSla ((newProject.carriedNames i .priority).headD fallbackPriority) none = .int 24 := by
    decide +kernel
  intro i member many
  rw [overflows_iff, allowed i member] at many
  exact absurd many (by decide +kernel)

theorem march_is_answered : (∀ i ∈ march, ∃ s, i.state = .text s) ∧
    ∃ report : Report Float, (Report.build newProject 2 noonOfTheTwentieth march).result = .ok report ∧
      report.totalOpen = 3 := by
  have texts : ∀ i ∈ march, ∃ s, i.state = .text s := fun i member => (wellTyped_march i member).state
  have three : (march.filter (·.IsOpen)).length = 3 := by decide +kernel
  obtain ⟨-, -, report, built, total⟩ | ⟨⟨i, member, -, many⟩, -⟩ :=
    answers_unless_overflow texts noonOfTheTwentieth 2
  · exact ⟨texts, report, built, total.trans three⟩
  · exact absurd many (not_overflows_march i member)

/-- A new project's policy that allows more hours than there are binary64 numbers for. -/
def vast : Policy :=
  { newProject with automation.blocked.sla := .ofList [("P1", .int (10 ^ 309 : ℕ))] }

theorem wellFormed_vast : vast.WellFormed :=
  { Policy.wellFormed_starter ⟨.backend, none, none, none⟩ with
    blocked := ⟨by simp only [vast]; decide +kernel, by decide⟩ }

theorem isWritable_ten_pow {k : ℕ} (few : k < Decimal.digitLimit) : Data.isWritable (.int (10 ^ k : ℕ)) = true := by
  rw [Data.isWritable, Bool.not_eq_true', ← Bool.not_eq_true, Decimal.isTooLong_iff, not_le, Int.natAbs_natCast]
  exact Nat.pow_lt_pow_right (by norm_num) few

/-- The hours may be written, like everything else. -/
theorem isWritable_vast : Data.isWritable vast.toData = true := by
  have others : Data.isWritable newProject.toData = true := by decide +kernel
  simp only [Policy.toData, Policy.automationData, Data.record, Table.toData, Data.isWritable, Data.entriesWritable,
    List.map_cons, List.map_nil, Bool.and_eq_true, Bool.true_and, Bool.and_true] at others ⊢
  obtain ⟨project, labels, board, inference, rules, -⟩ := others
  refine ⟨project, labels, board, inference, rules, ?_⟩
  change (true && Data.isWritable (.int (10 ^ 309 : ℕ)) && true) = true
  rw [isWritable_ten_pow (by decide)]
  rfl

theorem vast_is_read : ∃ document, (Policy.ofText document).result = .ok vast :=
  Policy.exists_document wellFormed_vast isWritable_vast (by decide +kernel) (by decide +kernel)

theorem vast_overflows (i : Issue) (named : (vast.carriedNames i .priority).headD fallbackPriority = "P1") :
    Overflows vast i := by
  have many : Decimal.overflow ≤ (10 ^ 309 : ℕ) := by decide +kernel
  rw [overflows_iff, named]
  exact Decimal.ofInt?_eq_none_iff.2 many

/-- The policy can be read and is valid, and yet there is neither an evaluation nor a report. -/
theorem vast_is_not_answered :
    (∃ document, (Policy.ofText document).result = .ok vast) ∧
      (∃ audit, vast.check.result = .ok audit ∧ audit.valid = true) ∧ (∀ i ∈ march, i.WellTyped) ∧
      (∀ results, (evaluate vast none noonOfTheTwentieth march : Run (List (Standing Float))).result ≠ .ok results) ∧
      ∀ report, (Report.build vast 2 noonOfTheTwentieth march : Run (Report Float)).result ≠ .ok report := by
  have texts : ∀ i ∈ march, ∃ s, i.state = .text s := fun i member => (wellTyped_march i member).state
  have audited : vast.check.result = .ok vast.audit := by
    rw [Policy.result_check, if_neg (by decide +kernel)]
  have failed : (evaluate vast none noonOfTheTwentieth march : Run (List (Standing Float))).result =
      .error .tooLarge := by
    obtain ⟨fit, -⟩ | ⟨-, failed⟩ := evaluation_cases texts noonOfTheTwentieth
    · exact absurd (vast_overflows (openedOn 1 20 "open") (by decide +kernel))
        (fit _ List.mem_cons_self (by decide +kernel))
    · exact failed
  refine ⟨vast_is_read, ⟨_, audited, by decide +kernel⟩, wellTyped_march, by simp [failed], fun report => ?_⟩
  rw [result_build texts, failed]
  exact nofun

end Sla

end Triage
