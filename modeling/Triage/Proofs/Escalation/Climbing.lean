import Triage.Proofs.Escalation.Decisions

/-!
# Escalation climbs

Where every rule leads to a priority that is defined before the one it starts from, and the top priority is
the first one, a decision that is carried out brings an issue forward: the label that gave the old priority
goes, and of the labels left the new one is the first. The place of the first priority falls with every
decision, so there are no more decisions than priorities, however often the issue is evaluated.
-/

namespace Triage

namespace Policy

/-- The place of a priority among those defined; one that is not defined comes after all of them. -/
def placeOf (p : Policy) (priority : String) : Nat := p.labels.priority.labels.position priority

/-- The place of the first priority that an issue carries, or one after all of them. -/
def placeOn (p : Policy) (i : Issue) : Nat :=
  ((p.carriedNames i .priority).head?.map p.placeOf).getD p.priorityNames.length

/-- The top priority is the first one, and every rule leads to an earlier priority. -/
structure Climbs (p : Policy) : Prop where
  top : p.priorityNames.head? = some topPriority
  earlier : ∀ rule ∈ p.escalationRules, p.placeOf rule.target < p.placeOf rule.source

variable {p : Policy} {i : Issue}

theorem placeOf_le (p : Policy) (priority : String) : p.placeOf priority ≤ p.priorityNames.length :=
  List.idxOf_le_length

theorem placeOn_le (p : Policy) (i : Issue) : p.placeOn i ≤ p.priorityNames.length := by
  rw [placeOn]
  cases (p.carriedNames i .priority).head? with
  | none => exact Nat.le_refl _
  | some short => exact p.placeOf_le short

/-- Nothing comes before the top priority, and anything else comes after it. -/
theorem Climbs.placeOf_pos (climbs : p.Climbs) {priority : String} (other : priority ≠ topPriority) :
    p.placeOf topPriority < p.placeOf priority := by
  have first : p.placeOf topPriority = 0 := (List.idxOf_eq_zero_iff_eq_nil_or_head_eq _).2 (.inr climbs.top)
  rw [first, Nat.pos_iff_ne_zero]
  intro zero
  obtain none | same := (List.idxOf_eq_zero_iff_eq_nil_or_head_eq _).1 zero
  · have top := climbs.top
    rw [priorityNames, LabelGroup.names, none] at top
    cases top
  · exact other (Option.some.inj (same.symm.trans climbs.top))

end Policy

namespace Escalation

/-- The issue once a decision is carried out: the new label takes the place of the old one. -/
def carriedOut (d : Escalation) (i : Issue) : Issue :=
  i.relabelled ((d.oldLabel.elim i.labels i.labels.erase).insert d.newLabel)

/-- The decisions about an issue that is evaluated time after time, each with the issue as it was, and the
fault that put an end to it, if there was one. A decision is carried out before the next evaluation. -/
def history (α : Type) [Quantity α] (find : Inference.Finder) (p : Policy) (labels : Option (List RemoteLabel))
    (dryRun : Bool) : Issue → List Time.Moment → List (Issue × Escalation) × Option Fault
  | _, [] => ([], none)
  | i, now :: later =>
    match (decideWith α find p labels dryRun now [i]).result with
    | .error fault => ([], some fault)
    | .ok [] => history α find p labels dryRun i later
    | .ok (d :: _) =>
      let (decisions, fault) := history α find p labels dryRun (d.carriedOut i) later
      ((i, d) :: decisions, fault)

/-- A decision brings an issue forward: it starts from the priority of the issue, leads to an earlier one,
and is what the issue has once it is carried out. -/
structure Advances (p : Policy) (i : Issue) (d : Escalation) : Prop where
  source : (p.priorityLabel i).result = .ok (d.oldPriority, d.oldLabel)
  earlier : p.placeOf d.newPriority < p.placeOf d.oldPriority
  settled : (p.priorityLabel (d.carriedOut i)).result = .ok (d.newPriority, some d.newLabel)

section

variable {α : Type} [Quantity α] {find : Inference.Finder} {p : Policy} {known : Option (List Data)}
  {labels : Option (List RemoteLabel)} {dryRun : Bool} {now : Time.Moment} {i : Issue} {d : Escalation}

/-! ## One evaluation -/

/-- The delay of some rule has too many digits to be written. -/
def HasLongDelay (p : Policy) : Prop := ∃ rule ∈ p.escalationRules, Decimal.isTooLong rule.afterDays = true

/-- An evaluation of an open issue answers with one decision at most, and fails where a delay is too long. -/
theorem exists_answer (α : Type) [Quantity α] (find : Inference.Finder) (p : Policy) (dryRun : Bool)
    (now : Time.Moment) (isOpen : i.isOpen = .ok true)
    (hashable : ∀ label ∈ labels.getD [], label.name.unhashable = false) :
    ∃ answer : Except Fault (Option Escalation),
      (decideWith α find p labels dryRun now [i]).result = answer.map Option.toList ∧
      (∀ d, answer = .ok (some d) → ∃ known, (decide? α find p known now i).result = .ok (some d)) ∧
      ∀ fault, answer = .error fault → fault = .integer .tooLongToWrite ∧ HasLongDelay p := by
  cases enabled : p.automation.escalation.enabled with
  | false => exact ⟨.ok none, by rw [decideWith, if_pos (by simp [enabled])]; rfl, by simp, by simp⟩
  | true =>
      have source := p.result_priorityLabel i
      refine ⟨_, by rw [result_decideWith enabled hashable, filterMapM_singleton], fun d decided => ?_, fun fault failed => ?_⟩
      · rw [outcome, isOpen] at decided
        exact ⟨_, decided⟩
      · rw [outcome_of_isOpen isOpen source] at failed
        cases found : target? α find p now i ((p.carriedNames i .priority).headD fallbackPriority) with
        | error other =>
            rw [found] at failed
            cases failed
            exact target?_eq_error found
        | ok _ =>
            rw [found] at failed
            cases failed

/-! ## Carrying a decision out -/

/-- The new priority is the first one of the issue once its label has taken the place of the old one. -/
theorem head?_carriedNames_carriedOut (source : (p.priorityLabel i).result = .ok (d.oldPriority, d.oldLabel))
    (named : d.newLabel = p.fullLabel .priority d.newPriority)
    (earlier : p.placeOf d.newPriority < p.placeOf d.oldPriority) :
    (p.carriedNames (d.carriedOut i) .priority).head? = some d.newPriority := by
  rw [p.result_priorityLabel, Except.ok.injEq, Prod.mk.injEq, List.headD_eq_head?_getD, p.head?_carried] at source
  obtain ⟨priority, label⟩ := source
  have defined : p.labels.priority.defines d.newPriority = true :=
    Table.position_lt_iff.1 (Nat.lt_of_lt_of_le earlier (p.placeOf_le _))
  have present : d.newLabel ∈ (d.carriedOut i).labels := LabelSet.mem_insert.2 (.inl rfl)
  refine Policy.head?_carriedNames_eq_some_iff.2 ⟨Policy.mem_carriedNames.2 ⟨defined, named ▸ present⟩, ?_⟩
  intro other member
  obtain ⟨known, carried⟩ := Policy.mem_carriedNames.1 member
  obtain same | kept := LabelSet.mem_insert.1 carried
  · rw [(p.group .priority).fullName_injective (same.trans named)]
  · -- A priority that stays comes after the old one, which was the first.
    cases first : (p.carriedNames i .priority).head? with
    | none =>
        rw [first] at label
        rw [← label] at kept
        have among := Policy.mem_carriedNames.2 ⟨known, kept⟩
        rw [List.head?_eq_none_iff.1 first] at among
        cases among
    | some short =>
        rw [first] at priority label
        rw [← label] at kept
        have among := Policy.mem_carriedNames.2 ⟨known, (LabelSet.mem_erase.1 kept).1⟩
        have after := (Policy.head?_carriedNames_eq_some_iff.1 first).2 other among
        change short = d.oldPriority at priority
        exact Nat.le_of_lt (Nat.lt_of_lt_of_le earlier (priority ▸ after))

/-- A decision brings the issue forward. -/
theorem advances_of_decide? (climbs : p.Climbs) (decided : (decide? α find p known now i).result = .ok (some d)) :
    Advances p i d ∧ (p.carriedNames (d.carriedOut i) .priority).head? = some d.newPriority := by
  obtain ⟨source, -, -⟩ := decide?_eq_some decided
  obtain ⟨named, behind⟩ := decide?_cases decided
  have earlier : p.placeOf d.newPriority < p.placeOf d.oldPriority := by
    obtain ⟨other, top, -⟩ | ⟨rule, present, from_, to_⟩ := behind
    · exact top ▸ climbs.placeOf_pos other
    · exact from_ ▸ to_ ▸ climbs.earlier rule present
  have first := head?_carriedNames_carriedOut source named earlier
  refine ⟨⟨source, earlier, ?_⟩, first⟩
  rw [p.result_priorityLabel, p.head?_carried, first, List.headD_eq_head?_getD, first, named]
  rfl

/-- The first priority of an issue moves forward with a decision. -/
theorem placeOn_carriedOut (climbs : p.Climbs) (decided : (decide? α find p known now i).result = .ok (some d)) :
    p.placeOn (d.carriedOut i) < p.placeOn i := by
  obtain ⟨advances, first⟩ := advances_of_decide? climbs decided
  have source := advances.source
  rw [p.result_priorityLabel, Except.ok.injEq, Prod.mk.injEq, List.headD_eq_head?_getD] at source
  have bound : p.placeOf d.oldPriority ≤ p.placeOn i := by
    rw [← source.1, Policy.placeOn]
    cases (p.carriedNames i .priority).head? with
    | none => exact p.placeOf_le _
    | some short => exact Nat.le_refl _
  rw [Policy.placeOn, first]
  exact Nat.lt_of_lt_of_le advances.earlier bound

/-! ## Evaluations one after the other -/

theorem history_advances_from (α : Type) [Quantity α] (find : Inference.Finder) (dryRun : Bool)
    (climbs : p.Climbs) (isOpen : i.isOpen = .ok true)
    (hashable : ∀ label ∈ labels.getD [], label.name.unhashable = false) (times : List Time.Moment) :
    (history α find p labels dryRun i times).1.length ≤ p.placeOn i ∧
      (∀ entry ∈ (history α find p labels dryRun i times).1, Advances p entry.1 entry.2) ∧
      ∀ fault ∈ (history α find p labels dryRun i times).2, fault = .integer .tooLongToWrite ∧ HasLongDelay p := by
  induction times generalizing i with
  | nil => simp [history]
  | cons now later ih =>
      obtain ⟨answer, evaluated, about, failing⟩ := exists_answer α find p dryRun now isOpen hashable
      rw [history, evaluated]
      cases answer with
      | error fault =>
          refine ⟨Nat.zero_le _, by simp [Except.map], fun other same => ?_⟩
          obtain rfl := Option.mem_some_iff.1 same
          exact failing fault rfl
      | ok decision =>
          cases decision with
          | none => exact ih isOpen
          | some d =>
              obtain ⟨known, decided⟩ := about d rfl
              obtain ⟨few, each, faults⟩ := @ih (d.carriedOut i) isOpen
              refine ⟨?_, ?_, faults⟩
              · exact Nat.lt_of_le_of_lt few (placeOn_carriedOut climbs decided)
              · exact List.forall_mem_cons.2 ⟨(advances_of_decide? climbs decided).1, each⟩

/-- Every decision brings the issue forward, and there are no more decisions than priorities. Only a delay that
cannot be written puts an end to the evaluations. -/
theorem history_advances (α : Type) [Quantity α] (find : Inference.Finder) (dryRun : Bool) (climbs : p.Climbs)
    (isOpen : i.isOpen = .ok true) (hashable : ∀ label ∈ labels.getD [], label.name.unhashable = false)
    (times : List Time.Moment) :
    (history α find p labels dryRun i times).1.length ≤ p.priorityNames.length ∧
      (∀ entry ∈ (history α find p labels dryRun i times).1, Advances p entry.1 entry.2) ∧
      ∀ fault ∈ (history α find p labels dryRun i times).2, fault = .integer .tooLongToWrite ∧ HasLongDelay p := by
  obtain ⟨few, each, faults⟩ := history_advances_from α find dryRun climbs isOpen hashable times
  exact ⟨few.trans (p.placeOn_le i), each, faults⟩

end

/-! ## Three priorities -/

/-- A policy whose priorities stand in labels by themselves; with age a low one becomes high, and a high one
the top priority. -/
def threePriorities : Policy :=
  { twoPriorities with
    labels.priority := ⟨"", .ofList
      [("P0", ⟨"b60205", "", none⟩), ("high", ⟨"d93f0b", "", none⟩), ("low", ⟨"c5def5", "", none⟩)]⟩
    automation.escalation := ⟨true, [⟨"low", "high", 7⟩, ⟨"high", "P0", 14⟩]⟩ }

theorem threePriorities_climbs : threePriorities.Climbs where
  top := by decide
  earlier := by decide

theorem low_climbs_to_top :
    threePriorities.Climbs ∧ (opened ["low"]).isOpen = .ok true ∧
      (∀ label ∈ oneKnown.getD [], label.name.unhashable = false) ∧
      ∃ decisions, history Float Pattern.found threePriorities oneKnown true (opened ["low"])
          [threeWeeksOn, threeWeeksOn, threeWeeksOn] = (decisions, none) ∧
        decisions.map (fun entry => (entry.2.oldPriority, entry.2.newPriority)) =
          [("low", "high"), ("high", "P0")] ∧
        decisions.length ≤ 3 ∧ ∀ entry ∈ decisions, Advances threePriorities entry.1 entry.2 := by
  have isOpen : (opened ["low"]).isOpen = .ok true := by decide +kernel
  have hashable : ∀ label ∈ oneKnown.getD [], label.name.unhashable = false := by decide
  obtain ⟨few, each, -⟩ := history_advances Float Pattern.found true threePriorities_climbs isOpen hashable
    [threeWeeksOn, threeWeeksOn, threeWeeksOn]
  have unbroken : (history Float Pattern.found threePriorities oneKnown true (opened ["low"])
      [threeWeeksOn, threeWeeksOn, threeWeeksOn]).2 = none := by decide +kernel
  have steps : (history Float Pattern.found threePriorities oneKnown true (opened ["low"])
      [threeWeeksOn, threeWeeksOn, threeWeeksOn]).1.map
      (fun entry => (entry.2.oldPriority, entry.2.newPriority)) = [("low", "high"), ("high", "P0")] := by
    decide +kernel
  exact ⟨threePriorities_climbs, isOpen, hashable, _, Prod.ext rfl unbroken, steps, few, each⟩

end Escalation

end Triage
