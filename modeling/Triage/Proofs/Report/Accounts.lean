import Triage.Proofs.Labels.Readers
import Triage.Proofs.Report.Tallies
import Triage.Proofs.Sla.Overflow

/-!
# What a report accounts for

A report counts every open issue once for its status, its priority and its type, and lists the front of the evaluation
of the same issues. Marking an issue as blocked makes no score of health rise, and the order in which the issues come
changes neither the counts nor their tables.
-/

namespace Triage

/-! ## The front of an evaluation -/

namespace Sla

section

variable {α : Type} [Quantity α]

/-- Whether or not the times compare, a standing before another one is no less urgent. -/
theorem respects_before : Order.Respects (before (α := α)) fun s => s.urgency.rank where
  before {a b} leads := by
    rcases Bool.or_eq_true_iff.1 leads with urgent | tie
    · exact (of_decide_eq_true urgent).le
    · exact (beq_iff_eq.1 (Bool.and_eq_true_iff.1 tie).1).le
  notBefore {a b} behind := by
    obtain ⟨notUrgent, -⟩ := Bool.or_eq_false_iff.1 behind
    exact not_lt.1 (of_decide_eq_false notUrgent)

theorem rising_inOrder (listed : List (Standing α)) :
    (inOrder listed).Pairwise fun a b => a.urgency.rank ≤ b.urgency.rank := by
  unfold inOrder
  split
  · exact respects_before.pairwise_sort listed
  · exact respects_before.pairwise_sortLoosely listed

/-- The blocked ones stand at the front. -/
theorem filter_inOrder (listed : List (Standing α)) : (inOrder listed).filter (·.urgency == .blocked) =
    (inOrder listed).takeWhile (·.urgency == .blocked) := by
  apply Order.filter_eq_takeWhile (rising_inOrder listed)
  intro a b order blocked
  rw [beq_iff_eq] at blocked ⊢
  rw [blocked] at order
  exact rank_injective (Nat.le_zero.1 order)

end

variable {p : Policy} {now : Time.Moment} {i : Issue} {issues : List Issue} {results : List (Standing Float)}

theorem filter_evaluated (texts : ∀ i ∈ issues, ∃ s, i.state = .text s)
    (evaluated : (evaluate p none now issues).result = .ok results) :
    results.filter (·.urgency == .blocked) = results.takeWhile (·.urgency == .blocked) := by
  rw [result_evaluate texts] at evaluated
  obtain ⟨listed, -, rfl⟩ := map_eq_ok_iff.1 evaluated
  exact filter_inOrder listed

end Sla

namespace Report

open Sla (evaluate Overflows)

variable {p : Policy} {closed : ℤ} {now : Time.Moment} {i : Issue} {issues : List Issue}
  {results : List (Standing Float)}

/-! ## The report -/

/-- There is a report unless the hours of some open issue are too many. -/
theorem build_cases (texts : ∀ i ∈ issues, ∃ s, i.state = .text s) (closed : ℤ) (now : Time.Moment) :
    (∀ i ∈ issues, i.IsOpen → ¬ Overflows p i) ∧ (∃ results, (evaluate p none now issues).result = .ok results ∧
      (build p closed now issues).result = .ok (summary p closed now (issues.filter (·.IsOpen)) results)) ∨
    (∃ i ∈ issues, i.IsOpen ∧ Overflows p i) ∧
      (build p closed now issues : Run (Report Float)).result = .error .tooLarge := by
  rw [Sla.result_build texts]
  rcases Sla.evaluation_cases texts now with ⟨fit, listed, results, -, evaluated, -⟩ | ⟨overflows, failed⟩
  · exact .inl ⟨fit, results, evaluated, by rw [evaluated]; rfl⟩
  · exact .inr ⟨overflows, by rw [failed]; rfl⟩

theorem countBlocked_eq (p : Policy) (issues : List Issue) : countBlocked p issues =
    if p.labels.workflow.defines blockedMark = true then
      issues.countP fun i => p.fullLabel .workflow blockedMark ∈ i.labels else 0 := by
  unfold countBlocked blockedLabel?
  by_cases defined : p.labels.workflow.defines blockedMark = true
  · rw [if_pos defined, if_pos defined]
  · rw [if_neg defined, if_neg defined]

/-- What a report says of the open ones of some issues. -/
structure Accounts (p : Policy) (now : Time.Moment) (issues : List Issue) (r : Report Float) : Prop where
  total : r.totalOpen = (issues.filter (·.IsOpen)).length
  status : Tallies (shortLabel p .status) (issues.filter (·.IsOpen)) r.byStatus
  priority : Tallies (shortLabel p .priority) (issues.filter (·.IsOpen)) r.byPriority
  type : Tallies (shortLabel p .type) (issues.filter (·.IsOpen)) r.byType
  blocked : r.blocked = if p.labels.workflow.defines blockedMark = true then
    (issues.filter (·.IsOpen)).countP fun i => p.fullLabel .workflow blockedMark ∈ i.labels else 0
  breaches : ∃ results, (evaluate p none now issues).result = .ok results ∧
    r.breaches = results.takeWhile (·.urgency == .blocked)
  least : 0 ≤ r.health
  most : r.health ≤ 100

theorem accounts_summary (texts : ∀ i ∈ issues, ∃ s, i.state = .text s) (closed : ℤ)
    (evaluated : (evaluate p none now issues).result = .ok results) :
    Accounts p now issues (summary p closed now (issues.filter (·.IsOpen)) results) where
  total := rfl
  status := tallies_count _ _
  priority := tallies_count _ _
  type := tallies_count _ _
  blocked := countBlocked_eq p _
  breaches := ⟨results, evaluated, Sla.filter_evaluated texts evaluated⟩
  least := le_max_left _ _
  most := max_le (by decide) (min_le_left _ _)

/-! ## One more blocked issue -/

/-- An issue with the mark of blocked issues. -/
def marked (p : Policy) (i : Issue) : Issue := i.relabelled (i.labels.insert (p.fullLabel .workflow blockedMark))

theorem carriedNames_marked {c : Category} (apart : p.matchLabel? c (p.fullLabel .workflow blockedMark) = none)
    (i : Issue) : p.carriedNames (marked p i) c = p.carriedNames i c := by
  refine List.filter_congr fun short member => decide_eq_decide.2 ?_
  have other : p.fullLabel c short ≠ p.fullLabel .workflow blockedMark := by
    intro same
    have matched := LabelGroup.match?_fullName (List.contains_iff_mem.2 member)
    rw [← Policy.fullLabel, same, ← Policy.matchLabel?, apart] at matched
    cases matched
  exact LabelSet.mem_insert.trans (or_iff_right other)

/-- What holds of all issues still holds if it is kept for the marked one. -/
theorem forall_mem_marked {holds : Issue → Prop} {before after : List Issue} (kept : holds i → holds (marked p i))
    (all : ∀ j ∈ before ++ i :: after, holds j) : ∀ j ∈ before ++ marked p i :: after, holds j := by
  simp only [List.mem_append, List.mem_cons] at all ⊢
  rintro j (early | rfl | late)
  · exact all j (.inl early)
  · exact kept (all i (.inr (.inl rfl)))
  · exact all j (.inr (.inr late))

theorem overflows_marked (apart : p.matchLabel? .priority (p.fullLabel .workflow blockedMark) = none) (i : Issue) :
    Overflows p (marked p i) ↔ Overflows p i := by
  rw [Sla.overflows_iff, Sla.overflows_iff, carriedNames_marked apart]

theorem healthScore_le {blocked blocked' : ℕ} (more : blocked ≤ blocked') (top : ℤ) (average : Float) :
    healthScore blocked' top average ≤ healthScore blocked top average := by
  unfold healthScore
  omega

theorem countBlocked_le_marked (before after : List Issue) (i : Issue) :
    countBlocked p (before ++ i :: after) ≤ countBlocked p (before ++ marked p i :: after) := by
  rw [countBlocked_eq, countBlocked_eq]
  split
  · have carried : p.fullLabel .workflow blockedMark ∈ (marked p i).labels := LabelSet.mem_insert.2 (.inl rfl)
    rw [List.countP_append, List.countP_append, List.countP_cons, List.countP_cons_of_pos (by simpa using carried)]
    split <;> omega
  · exact le_rfl

theorem filter_isOpen_marked (p : Policy) (before after : List Issue) (isOpen : i.IsOpen) :
    (before ++ i :: after).filter (·.IsOpen) = before.filter (·.IsOpen) ++ i :: after.filter (·.IsOpen) ∧
    (before ++ marked p i :: after).filter (·.IsOpen) =
      before.filter (·.IsOpen) ++ marked p i :: after.filter (·.IsOpen) := by
  have isOpen' : (marked p i).IsOpen := isOpen
  simp [isOpen, isOpen']

theorem health_summary_le (apart : p.matchLabel? .priority (p.fullLabel .workflow blockedMark) = none)
    (before after : List Issue) (results results' : List (Standing Float)) :
    (summary p closed now (before ++ marked p i :: after) results').health ≤
      (summary p closed now (before ++ i :: after) results).health := by
  have named : shortLabel p .priority (marked p i) = shortLabel p .priority i := by
    rw [Policy.shortLabel_eq_headD, Policy.shortLabel_eq_headD, carriedNames_marked apart]
  have keys : (before ++ marked p i :: after).map (shortLabel p .priority) =
      (before ++ i :: after).map (shortLabel p .priority) := by
    simp [named]
  have ages : (meanAge now (before ++ marked p i :: after) : Float) = meanAge now (before ++ i :: after) := by
    have spans : (before ++ marked p i :: after).map (fun i => (Quantity.days (i.age now) : Float)) =
        (before ++ i :: after).map fun i => Quantity.days (i.age now) := by
      rw [List.map_append, List.map_append]
      rfl
    have some (i : Issue) : (before ++ i :: after).isEmpty = false := by simp
    simp only [meanAge, spans, some, List.length_append, List.length_cons]
  change healthScore _ _ (meanAge now (before ++ marked p i :: after) : Float) ≤ healthScore _ _ _
  rw [keys, ages]
  exact healthScore_le (countBlocked_le_marked before after i) _ _

/-! ## Another order -/

/-- The reports count the same, and write it in the same tables. -/
def CountAlike (r r' : Report Float) : Prop :=
  ∀ counts ∈ [Report.byStatus, Report.byPriority, Report.byType],
    (∀ key, (counts r).get? key = (counts r').get? key) ∧ ∀ title, table title (counts r) = table title (counts r')

theorem countAlike_summary {opened opened' : List Issue} (same : opened.Perm opened')
    (results results' : List (Standing Float)) :
    CountAlike (summary p closed now opened results) (summary p closed now opened' results') := by
  have alike (c : Category) : (∀ key, (count (opened.map (shortLabel p c))).get? key =
      (count (opened'.map (shortLabel p c))).get? key) ∧
      ∀ title, table title (count (opened.map (shortLabel p c))) = table title (count (opened'.map (shortLabel p c))) := by
    have stored := get?_count_of_perm (same.map (shortLabel p c))
    exact ⟨stored, fun title => by rw [table, table, rows_eq stored]⟩
  simp only [CountAlike, List.forall_mem_cons]
  exact ⟨alike .status, alike .priority, alike .type, by simp⟩

/-! ## Every open issue -/

/-- A report accounts for every open issue. Its health is no better with one more blocked issue, where the mark is no
priority, and its counts are those of the issues in any other order. There is no report only where the hours of an
open issue are too many. -/
theorem build_accounts (texts : ∀ i ∈ issues, ∃ s, i.state = .text s) (closed : ℤ) (now : Time.Moment) :
    (∃ r : Report Float, (build p closed now issues).result = .ok r ∧ Accounts p now issues r ∧
      (p.matchLabel? .priority (p.fullLabel .workflow blockedMark) = none →
        ∀ before i after, issues = before ++ i :: after → i.IsOpen → ∃ r' : Report Float,
          (build p closed now (before ++ marked p i :: after)).result = .ok r' ∧ r'.health ≤ r.health) ∧
      ∀ issues', issues.Perm issues' → ∃ r' : Report Float,
        (build p closed now issues').result = .ok r' ∧ CountAlike r r') ∨
    (∃ i ∈ issues, i.IsOpen ∧ Overflows p i) ∧
      (build p closed now issues : Run (Report Float)).result = .error .tooLarge := by
  rcases build_cases texts closed now with ⟨fit, results, evaluated, built⟩ | failed
  · refine .inl ⟨_, built, accounts_summary texts closed evaluated, ?_, ?_⟩
    · rintro apart before i after rfl isOpen
      have texts' : ∀ j ∈ before ++ marked p i :: after, ∃ s, j.state = .text s := forall_mem_marked id texts
      have fit' : ∀ j ∈ before ++ marked p i :: after, j.IsOpen → ¬ Overflows p j :=
        forall_mem_marked (fun fits isOpen many => fits isOpen ((overflows_marked apart i).1 many)) fit
      rcases build_cases texts' closed now with ⟨-, results', -, built'⟩ | ⟨⟨j, member, isOpen', many⟩, -⟩
      · refine ⟨_, built', ?_⟩
        obtain ⟨whole, whole'⟩ := filter_isOpen_marked p before after isOpen
        rw [whole, whole']
        exact health_summary_le apart _ _ _ _
      · exact absurd many (fit' j member isOpen')
    · intro issues' same
      have texts' : ∀ j ∈ issues', ∃ s, j.state = .text s := fun j member => texts j (same.mem_iff.2 member)
      rcases build_cases texts' closed now with ⟨-, results', -, built'⟩ | ⟨⟨j, member, isOpen, many⟩, -⟩
      · exact ⟨_, built', countAlike_summary (same.filter _) _ _⟩
      · exact absurd many (fit j (same.mem_iff.2 member) isOpen)
  · exact .inr failed

/-- In March three issues of a high priority are open. -/
theorem march_is_accounted : (∀ i ∈ Sla.march, ∃ s, i.state = .text s) ∧ ∃ r : Report Float,
    (build Sla.newProject 2 Sla.noonOfTheTwentieth Sla.march).result = .ok r ∧
      Accounts Sla.newProject Sla.noonOfTheTwentieth Sla.march r ∧ r.byPriority.get? "P1" = some 3 ∧
      ∃ r' : Report Float, (build Sla.newProject 2 Sla.noonOfTheTwentieth
        (marked Sla.newProject (Sla.openedOn 1 20 "open") :: Sla.march.tail)).result = .ok r' ∧
        r'.health ≤ r.health := by
  have texts : ∀ i ∈ Sla.march, ∃ s, i.state = .text s := fun i member => (Sla.wellTyped_march i member).state
  rcases build_accounts (p := Sla.newProject) texts 2 Sla.noonOfTheTwentieth with
    ⟨r, built, accounts, worse, -⟩ | ⟨⟨i, member, -, many⟩, -⟩
  · have counted := (accounts.priority.stored "P1" 3).2 (by decide +kernel)
    exact ⟨texts, r, built, accounts, counted, worse (by decide +kernel) [] _ _ rfl (by decide +kernel)⟩
  · exact absurd many (Sla.not_overflows_march i member)

end Report

end Triage
