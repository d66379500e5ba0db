import Triage.Proofs.Audit.Findings
import Triage.Proofs.Escalation.Targets
import Triage.Proofs.Labels.Carried
import Triage.Proofs.Plan
import Triage.Proofs.Time.Spans

/-!
# Decisions of escalation

Issues are decided about one by one. A security issue goes to the top priority, and any other one follows the
first rule for its priority that its age satisfies; a decision that can be made once can be made at every later
time. There is no answer at all where that rule has a delay with too many digits to be written.
-/

namespace Triage

/-- A rule applies to an issue of its priority that is as many days old. -/
structure EscalationRule.Applies (rule : EscalationRule) (current : String) (days : ℚ) : Prop where
  source : rule.source = current
  old : rule.afterDays ≤ days

theorem EscalationRule.Applies.mono {rule : EscalationRule} {current : String} {days days' : ℚ}
    (applies : rule.Applies current days) (older : days ≤ days') : rule.Applies current days' :=
  ⟨applies.source, applies.old.trans older⟩

/-- The first rule that applies. -/
def Policy.IsFirstRule (p : Policy) (current : String) (days : ℚ) (rule : EscalationRule) : Prop :=
  ∃ before after, p.escalationRules = before ++ rule :: after ∧ rule.Applies current days ∧
    ∀ other ∈ before, ¬ other.Applies current days

namespace Escalation

/-! ## One by one -/

section

variable {α : Type} [Quantity α] {find : Inference.Finder} {p : Policy} {known : Option (List Data)}
  {labels : Option (List RemoteLabel)} {dryRun : Bool} {now : Time.Moment} {i : Issue}
  {issues : List Issue} {decisions : List Escalation} {d : Escalation}

@[simp] theorem result_announce (dryRun : Bool) (d : Escalation) : (announce dryRun d).result = .ok () := by
  cases available : d.available <;> simp [announce, available]; rfl

theorem knownNames_of_hashable (labels : List RemoteLabel)
    (hashable : ∀ label ∈ labels, label.name.unhashable = false) :
    knownNames labels = .ok (labels.map RemoteLabel.name) := by
  induction labels with
  | nil => rfl
  | cons label rest ih =>
      obtain ⟨first, others⟩ := List.forall_mem_cons.1 hashable
      simp [knownNames, first, ih others]

/-- The decision about an issue that may be closed. -/
def outcome (α : Type) [Quantity α] (find : Inference.Finder) (p : Policy) (known : Option (List Data))
    (now : Time.Moment) (i : Issue) : Except Fault (Option Escalation) := do
  if ← i.isOpen then (decide? α find p known now i).result else return none

theorem result_decideAll (known : Option (List Data)) (dryRun : Bool) (issues : List Issue) :
    (decideAll α find p known dryRun now issues).result = issues.filterMapM (outcome α find p known now) := by
  induction issues with
  | nil => rfl
  | cons i rest ih =>
      rw [decideAll, List.filterMapM_cons, outcome, Run.result_bind, Run.result_liftM]
      cases i.isOpen with
      | error fault => rfl
      | ok isOpen =>
          cases isOpen with
          | false => exact ih
          | true =>
              change (decide? α find p known now i >>= _).result = (decide? α find p known now i).result >>= _
              rw [Run.result_bind]
              cases (decide? α find p known now i).result with
              | error fault => rfl
              | ok decision =>
                  cases decision with
                  | none =>
                      change (decideAll α find p known dryRun now rest >>= _).result = _
                      rw [Run.result_bind, ih]
                      exact bind_pure _
                  | some d =>
                      change (announce dryRun d >>= fun _ => decideAll α find p known dryRun now rest >>= _).result = _
                      rw [Run.result_bind, result_announce]
                      change (decideAll α find p known dryRun now rest >>= _).result = _
                      rw [Run.result_bind, ih]
                      rfl

/-- An evaluation takes the issues one by one, whether it is a dry run or not. -/
theorem result_decideWith (enabled : p.automation.escalation.enabled = true)
    (hashable : ∀ label ∈ labels.getD [], label.name.unhashable = false) (dryRun : Bool) (issues : List Issue) :
    (decideWith α find p labels dryRun now issues).result =
      issues.filterMapM (outcome α find p (labels.map (·.map RemoteLabel.name)) now) := by
  have known : (labels.mapM knownNames : Except Fault (Option (List Data))) =
      .ok (labels.map (·.map RemoteLabel.name)) := by
    cases labels with
    | none => rfl
    | some labels =>
        change some <$> knownNames labels = _
        rw [knownNames_of_hashable labels hashable]
        rfl
  rw [decideWith, if_neg (by simp [enabled]), Run.result_bind, Run.result_liftM, known]
  exact result_decideAll _ dryRun issues

theorem filterMapM_append {β γ : Type} (f : β → Except Fault (Option γ)) (xs ys : List β) :
    (xs ++ ys).filterMapM f = do return (← xs.filterMapM f) ++ (← ys.filterMapM f) := by
  induction xs with
  | nil => simp
  | cons x rest ih =>
      simp only [List.cons_append, List.filterMapM_cons, ih, bind_assoc]
      congr 1
      funext first
      cases first <;> simp

theorem filterMapM_singleton {β γ : Type} (f : β → Except Fault (Option γ)) (x : β) :
    [x].filterMapM f = (f x).map Option.toList := by
  rw [List.filterMapM_cons, List.filterMapM_nil]
  cases f x with
  | error fault => rfl
  | ok answer => cases answer <;> rfl

theorem mem_filterMapM {β γ : Type} {f : β → Except Fault (Option γ)} {xs : List β} {ys : List γ} {y : γ}
    (found : xs.filterMapM f = .ok ys) (member : y ∈ ys) : ∃ x ∈ xs, f x = .ok (some y) := by
  induction xs generalizing ys with
  | nil =>
      cases found
      cases member
  | cons x rest ih =>
      have behind {others : List γ} (later : rest.filterMapM f = .ok others) (among : y ∈ others) :
          ∃ other ∈ x :: rest, f other = .ok (some y) := by
        obtain ⟨other, there, about⟩ := ih later among
        exact ⟨other, List.mem_cons_of_mem x there, about⟩
      rw [List.filterMapM_cons] at found
      obtain ⟨answer, first, found⟩ := bind_eq_ok_iff.1 found
      cases answer with
      | none => exact behind found member
      | some z =>
          obtain ⟨others, later, made⟩ := bind_eq_ok_iff.1 found
          cases made
          obtain rfl | among := List.mem_cons.1 member
          · exact ⟨x, List.mem_cons_self, first⟩
          · exact behind later among

theorem map_filterMapM {β γ δ : Type} {f : β → Except Fault (Option γ)} {g : β → Except Fault (Option δ)}
    {h : γ → δ} (same : ∀ x, (f x).map (Option.map h) = g x) (xs : List β) :
    (xs.filterMapM f).map (List.map h) = xs.filterMapM g := by
  induction xs with
  | nil => rfl
  | cons x rest ih =>
      rw [List.filterMapM_cons, List.filterMapM_cons, ← same x, ← ih]
      cases f x with
      | error fault => rfl
      | ok answer =>
          cases answer with
          | none => rfl
          | some y =>
              change (rest.filterMapM f >>= _).map _ = (rest.filterMapM f).map _ >>= _
              cases rest.filterMapM f <;> rfl

/-! ## One issue -/

/-- The decision that leads an issue from its priority to another one. -/
def proposal (p : Policy) (known : Option (List Data)) (i : Issue) (current : String) (oldLabel : Option String)
    (outcome : String × String) : Escalation where
  number := i.number
  oldPriority := current
  newPriority := outcome.1
  reason := outcome.2
  oldLabel
  newLabel := p.fullLabel .priority outcome.1
  available := (known.map fun names => names.any (· == .text (p.fullLabel .priority outcome.1))).getD true

theorem result_decide? {current : String} {oldLabel : Option String}
    (source : (p.priorityLabel i).result = .ok (current, oldLabel)) (known : Option (List Data)) :
    (decide? α find p known now i).result =
      (target? α find p now i current).map (Option.map (proposal p known i current oldLabel)) := by
  rw [decide?, Run.result_bind, source]
  change ((liftM (target? α find p now i current) : Run (Option (String × String))) >>= _).result = _
  rw [Run.result_bind, Run.result_liftM]
  cases target? α find p now i current with
  | error fault => rfl
  | ok outcome => cases outcome <;> rfl

/-- The label of a decision is missing when the labels are known and it is not among them. -/
theorem available_proposal {current : String} {oldLabel : Option String} {outcome : String × String} :
    (proposal p (labels.map (·.map RemoteLabel.name)) i current oldLabel outcome).available = false ↔
      ∃ snapshot, labels = some snapshot ∧
        ∀ label ∈ snapshot, label.name ≠ .text (p.fullLabel .priority outcome.1) := by
  cases labels with
  | none => simp [proposal]
  | some snapshot =>
      simp only [proposal, Option.map_some, Option.getD_some, List.any_eq_false, List.mem_map, Plan.beq_text_iff,
        forall_exists_index, and_imp, forall_apply_eq_imp_iff₂, Option.some.injEq, exists_eq_left', ne_eq]

theorem outcome_of_isOpen {current : String} {oldLabel : Option String} (isOpen : i.isOpen = .ok true)
    (source : (p.priorityLabel i).result = .ok (current, oldLabel)) (known : Option (List Data)) :
    outcome α find p known now i =
      (target? α find p now i current).map (Option.map (proposal p known i current oldLabel)) := by
  rw [outcome, isOpen]
  exact result_decide? source known

theorem outcome_eq_some (about : outcome α find p known now i = .ok (some d)) :
    i.isOpen = .ok true ∧ ∃ current oldLabel, (p.priorityLabel i).result = .ok (current, oldLabel) ∧
      ∃ outcome, target? α find p now i current = .ok (some outcome) ∧ d = proposal p known i current oldLabel outcome := by
  cases isOpen : i.isOpen with
  | error fault => simp [outcome, isOpen, bind, Except.bind] at about
  | ok answer =>
      cases answer with
      | false => simp [outcome, isOpen, bind, Except.bind, pure, Except.pure] at about
      | true =>
          rw [outcome_of_isOpen isOpen (p.result_priorityLabel i), map_eq_ok_iff] at about
          obtain ⟨found, target, made⟩ := about
          obtain ⟨outcome, rfl, rfl⟩ := Option.map_eq_some_iff.1 made
          exact ⟨rfl, _, _, p.result_priorityLabel i, outcome, target, rfl⟩

/-- The decision with its label taken to be there. -/
def assumed (d : Escalation) : Escalation := { d with available := true }

theorem map_assumed_outcome (known : Option (List Data)) (i : Issue) :
    (outcome α find p known now i).map (Option.map assumed) = outcome α find p none now i := by
  unfold outcome
  cases i.isOpen with
  | error fault => rfl
  | ok answer =>
      cases answer with
      | false => rfl
      | true =>
          change (decide? α find p known now i).result.map _ = (decide? α find p none now i).result
          rw [result_decide? (p.result_priorityLabel i), result_decide? (p.result_priorityLabel i)]
          cases target? α find p now i ((p.carriedNames i .priority).headD fallbackPriority) with
          | error fault => rfl
          | ok found => cases found <;> rfl

/-- An evaluation fails where the rule that comes first has a delay that cannot be written. -/
theorem target?_eq_error {current : String} {fault : Fault}
    (failed : target? α find p now i current = .error fault) :
    fault = .integer .tooLongToWrite ∧ ∃ rule ∈ p.escalationRules, Decimal.isTooLong rule.afterDays = true := by
  unfold target? at failed
  split at failed
  · cases failed
  · split at failed
    · cases failed
    · rename_i rule first
      split at failed
      · rename_i long
        cases failed
        exact ⟨rfl, rule, List.mem_of_find?_eq_some first, long⟩
      · cases failed

end

/-! ## Ages -/

/-- The days since an issue was opened, as they are reckoned. -/
def daysOpen (i : Issue) (now : Time.Moment) : ℚ := ratOf (Quantity.days (i.age now))

section

variable {p : Policy} {labels : Option (List RemoteLabel)} {now later : Time.Moment} {i : Issue} {current : String}
  {rule : EscalationRule}

/-- An issue is no younger later on. -/
theorem daysOpen_mono (opened : i.createdAt.fault? = none) (valid : now.fault? = none) (valid' : later.fault? = none)
    (after : now.instant ≤ later.instant) : daysOpen i now ≤ daysOpen i later :=
  Decimal.ratOf_days_mono (sub_le_sub_right after _) (Time.Moment.natAbs_sub_lt valid opened)
    (Time.Moment.natAbs_sub_lt valid' opened)

/-- Ages stay within what can be written. -/
theorem abs_daysOpen_le (opened : i.createdAt.fault? = none) (valid : now.fault? = none) :
    |daysOpen i now| ≤ 2 ^ 60 := by
  have short := Time.Moment.natAbs_sub_lt valid opened
  have most : ratOf (Quantity.days (2 ^ 60 - 1)) ≤ 2 ^ 60 := by decide +kernel
  have least : -2 ^ 60 ≤ ratOf (Quantity.days (-(2 ^ 60 - 1))) := by decide +kernel
  refine abs_le.2 ⟨least.trans ?_, le_trans ?_ most⟩
  · exact Decimal.ratOf_days_mono (by unfold Issue.age; omega) (by norm_num) short
  · exact Decimal.ratOf_days_mono (by unfold Issue.age; omega) short (by norm_num)

theorem applies_iff (opened : i.createdAt.fault? = none) (valid : now.fault? = none) :
    (rule.source == current && Quantity.atLeast (Quantity.days (i.age now) : Float) rule.afterDays) = true ↔
      rule.Applies current (daysOpen i now) := by
  have finite := (Decimal.near_days (Time.Moment.natAbs_sub_lt valid opened)).isFinite
  rw [Bool.and_eq_true, beq_iff_eq]
  exact ⟨fun ⟨source, old⟩ => ⟨source, (Decimal.atLeast_iff finite).1 old⟩,
    fun ⟨source, old⟩ => ⟨source, (Decimal.atLeast_iff finite).2 old⟩⟩

theorem rule?_eq_some_iff (opened : i.createdAt.fault? = none) (valid : now.fault? = none) :
    rule? Float p current (i.age now) = some rule ↔ p.IsFirstRule current (daysOpen i now) rule := by
  rw [rule?, List.find?_eq_some_iff_append, applies_iff opened valid]
  simp only [Bool.not_eq_true', ← Bool.not_eq_true, applies_iff opened valid]
  exact ⟨fun ⟨applies, before, after, rules, others⟩ => ⟨before, after, rules, applies, others⟩,
    fun ⟨before, after, rules, applies, others⟩ => ⟨applies, before, after, rules, others⟩⟩

theorem rule?_eq_none_iff (opened : i.createdAt.fault? = none) (valid : now.fault? = none) :
    rule? Float p current (i.age now) = none ↔ ∀ rule ∈ p.escalationRules, ¬ rule.Applies current (daysOpen i now) := by
  rw [rule?, List.find?_eq_none]
  simp only [applies_iff opened valid]

/-! ## What is decided -/

/-- An issue that is not at the top priority and has a security signal. -/
def NeedsTop (p : Policy) (i : Issue) (current : String) : Prop :=
  current ≠ topPriority ∧ p.hasSecuritySignal Pattern.found i = true

instance (p : Policy) (i : Issue) (current : String) : Decidable (NeedsTop p i current) :=
  inferInstanceAs (Decidable (_ ∧ _))

/-- What an evaluation answers about an open issue with a priority and the label that gives it. -/
structure Judges (p : Policy) (now : Time.Moment) (i : Issue) (current : String) (oldLabel : Option String)
    (answer : Except Fault (List Escalation)) : Prop where
  /-- There is one decision at most. -/
  single : ∀ decisions, answer = .ok decisions → decisions.length ≤ 1
  /-- A decision replaces the label of the priority by that of the new one. -/
  labels : ∀ decisions, answer = .ok decisions → ∀ d ∈ decisions, d.number = i.number ∧ d.oldPriority = current ∧
    d.oldLabel = oldLabel ∧ d.newLabel = p.fullLabel .priority d.newPriority
  /-- Security issues go to the top priority, and no others do for that reason. -/
  security : (∃ d, answer = .ok [d] ∧ d.newPriority = topPriority ∧ d.reason = "security auto-escalation") ↔
    NeedsTop p i current
  /-- Any other issue follows the first rule that applies to it. -/
  rule : ¬ NeedsTop p i current → ∀ rule, p.IsFirstRule current (daysOpen i now) rule →
    Decimal.isTooLong rule.afterDays = false →
      ∃ d, answer = .ok [d] ∧ d.newPriority = rule.target ∧ d.reason = s!"exceeded {rule.afterDays} days unresolved"
  /-- The delay of the rule has to be written. -/
  unwritten : ¬ NeedsTop p i current → ∀ rule, p.IsFirstRule current (daysOpen i now) rule →
    Decimal.isTooLong rule.afterDays = true → answer = .error (.integer .tooLongToWrite)
  /-- Without such a rule there is no decision. -/
  nothing : ¬ NeedsTop p i current → (∀ rule ∈ p.escalationRules, ¬ rule.Applies current (daysOpen i now)) →
    answer = .ok []

theorem reason_ne (n : ℤ) : s!"exceeded {n} days unresolved" ≠ "security auto-escalation" := by
  intro same
  change "exceeded " ++ toString n ++ " days unresolved" = "security auto-escalation" at same
  have first := congrArg (fun s : String => s.toList.head?) same
  simp at first

theorem target?_of_needsTop (needs : NeedsTop p i current) :
    target? Float Pattern.found p now i current = .ok (some (topPriority, "security auto-escalation")) := by
  rw [target?, if_pos]
  simpa [NeedsTop] using needs

/-- Where a rule leads an issue, and why. -/
def followed : Option EscalationRule → Except Fault (Option (String × String))
  | none => .ok none
  | some rule =>
    if Decimal.isTooLong rule.afterDays then .error (.integer .tooLongToWrite)
    else .ok (some (rule.target, s!"exceeded {rule.afterDays} days unresolved"))

theorem target?_of_rule (other : ¬ NeedsTop p i current) :
    target? Float Pattern.found p now i current = followed (rule? Float p current (i.age now)) := by
  have plain : ¬ (current != topPriority && p.hasSecuritySignal Pattern.found i) = true := by
    simpa [NeedsTop] using other
  rw [target?, if_neg plain]
  cases rule? Float p current (i.age now) <;> rfl

theorem followed_of_short (short : Decimal.isTooLong rule.afterDays = false) :
    followed (some rule) = .ok (some (rule.target, s!"exceeded {rule.afterDays} days unresolved")) := by
  simp [followed, short]

theorem followed_of_long (long : Decimal.isTooLong rule.afterDays = true) :
    followed (some rule) = .error (.integer .tooLongToWrite) := by
  simp [followed, long]

theorem followed_eq_some {first : Option EscalationRule} {outcome : String × String}
    (found : followed first = .ok (some outcome)) :
    ∃ rule, first = some rule ∧ Decimal.isTooLong rule.afterDays = false ∧
      outcome = (rule.target, s!"exceeded {rule.afterDays} days unresolved") := by
  cases first with
  | none => cases found
  | some rule =>
      cases long : Decimal.isTooLong rule.afterDays with
      | true => simp [followed_of_long long] at found
      | false =>
          rw [followed_of_short long] at found
          cases found
          exact ⟨rule, rfl, long, rfl⟩

theorem judges_target? (opened : i.createdAt.fault? = none) (valid : now.fault? = none)
    (known : Option (List Data)) (oldLabel : Option String) :
    Judges p now i current oldLabel ((target? Float Pattern.found p now i current).map
      fun outcome => (outcome.map (proposal p known i current oldLabel)).toList) where
  single := by
    intro decisions answer
    obtain ⟨outcome, -, rfl⟩ := map_eq_ok_iff.1 answer
    cases outcome <;> simp
  labels := by
    intro decisions answer d member
    obtain ⟨outcome, -, rfl⟩ := map_eq_ok_iff.1 answer
    cases outcome with
    | none => cases member
    | some outcome =>
        obtain rfl := List.mem_singleton.1 member
        exact ⟨rfl, rfl, rfl, rfl⟩
  security := by
    refine ⟨fun ⟨d, answer, top, reason⟩ => by_contra fun other => ?_, fun needs => ?_⟩
    · obtain ⟨outcome, found, made⟩ := map_eq_ok_iff.1 answer
      rw [target?_of_rule other] at found
      cases outcome with
      | none => cases made
      | some outcome =>
          obtain ⟨rule, -, -, rfl⟩ := followed_eq_some found
          cases made
          exact reason_ne _ reason
    · rw [target?_of_needsTop needs]
      exact ⟨_, rfl, rfl, rfl⟩
  rule := by
    intro other rule first short
    rw [target?_of_rule other, (rule?_eq_some_iff opened valid).2 first, followed_of_short short]
    exact ⟨_, rfl, rfl, rfl⟩
  unwritten := by
    intro other rule first long
    rw [target?_of_rule other, (rule?_eq_some_iff opened valid).2 first, followed_of_long long]
    rfl
  nothing := by
    intro other none
    rw [target?_of_rule other, (rule?_eq_none_iff opened valid).2 none]
    rfl

/-! ## Later on -/

/-- An issue that goes to another priority does so at every later time. -/
theorem exists_target?_later (opened : i.createdAt.fault? = none) (valid : now.fault? = none)
    (valid' : later.fault? = none) (after : now.instant ≤ later.instant) {outcome : String × String}
    (found : target? Float Pattern.found p now i current = .ok (some outcome)) :
    ∃ outcome', target? Float Pattern.found p later i current = .ok (some outcome') := by
  by_cases needs : NeedsTop p i current
  · exact ⟨_, target?_of_needsTop needs⟩
  · rw [target?_of_rule needs] at found ⊢
    obtain ⟨rule, first, short, -⟩ := followed_eq_some found
    have older := daysOpen_mono opened valid valid' after
    cases next : rule? Float p current (i.age later) with
    | none =>
        obtain ⟨before, rest, rules, applies, -⟩ := (rule?_eq_some_iff opened valid).1 first
        have member : rule ∈ p.escalationRules := rules ▸ List.mem_append_right before List.mem_cons_self
        exact absurd (applies.mono older) ((rule?_eq_none_iff opened valid').1 next rule member)
    | some rule' =>
        refine ⟨_, followed_of_short ?_⟩
        obtain ⟨before, rest, rules, applies, others⟩ := (rule?_eq_some_iff opened valid').1 next
        by_cases already : rule'.afterDays ≤ daysOpen i now
        · -- The rules in front of it did not apply before either, so it came first then too.
          have same : rule? Float p current (i.age now) = some rule' :=
            (rule?_eq_some_iff opened valid).2 ⟨before, rest, rules, ⟨applies.source, already⟩,
              fun other member applied => others other member (applied.mono older)⟩
          rw [first, Option.some.injEq] at same
          exact same ▸ short
        · -- It became due in between, so its delay is an age that issues can have.
          have low := (abs_le.1 (abs_daysOpen_le opened valid)).1
          have high := (abs_le.1 (abs_daysOpen_le opened valid')).2
          have least : -2 ^ 60 ≤ rule'.afterDays := by exact_mod_cast low.trans (not_le.1 already).le
          have most : rule'.afterDays ≤ 2 ^ 60 := by exact_mod_cast applies.old.trans high
          rw [← Bool.not_eq_true, Decimal.isTooLong_iff, not_le]
          calc rule'.afterDays.natAbs ≤ 10 ^ 19 := by omega
            _ < 10 ^ Decimal.digitLimit := Nat.pow_lt_pow_right (by norm_num) (by decide)

/-! ## All issues -/

/-- How issues are decided about at a time, with the labels on the tracker known or not. -/
structure DecidesEach (p : Policy) (labels : Option (List RemoteLabel)) (now : Time.Moment) : Prop where
  /-- Issues are decided about one after the other. -/
  append (dryRun : Bool) (xs ys : List Issue) : (decide p labels dryRun now (xs ++ ys)).result = do
    return (← (decide p labels dryRun now xs).result) ++ (← (decide p labels dryRun now ys).result)
  closed (dryRun : Bool) (i : Issue) (isOpen : i.isOpen = .ok false) :
    (decide p labels dryRun now [i]).result = .ok []
  opened (dryRun : Bool) (i : Issue) (isOpen : i.isOpen = .ok true) (opened : i.createdAt.fault? = none) :
    ∃ current oldLabel, (p.priorityLabel i).result = .ok (current, oldLabel) ∧
      Judges p now i current oldLabel (decide p labels dryRun now [i]).result
  /-- A dry run comes to the same decisions. -/
  dryRun (issues : List Issue) :
    (decide p labels true now issues).result = (decide p labels false now issues).result
  /-- Known labels change nothing but what is said about them. -/
  snapshot (dryRun : Bool) (issues : List Issue) :
    (decide p labels dryRun now issues).result.map (List.map assumed) = (decide p none dryRun now issues).result
  available (dryRun : Bool) (issues : List Issue) (decisions : List Escalation)
    (decided : (decide p labels dryRun now issues).result = .ok decisions) : ∀ d ∈ decisions,
    d.available = false ↔ ∃ snapshot, labels = some snapshot ∧ ∀ label ∈ snapshot, label.name ≠ .text d.newLabel
  /-- What is decided about once is decided about at every later time. -/
  later (dryRun : Bool) (i : Issue) (opened : i.createdAt.fault? = none) (d : Escalation)
    (decided : (decide p labels dryRun now [i]).result = .ok [d]) (later : Time.Moment)
    (valid : later.fault? = none) (after : now.instant ≤ later.instant) :
    ∃ d', (decide p labels dryRun later [i]).result = .ok [d']

/-- An evaluation of one open issue judges it. -/
theorem judges_decide (enabled : p.automation.escalation.enabled = true)
    (hashable : ∀ label ∈ labels.getD [], label.name.unhashable = false) (valid : now.fault? = none) (dryRun : Bool)
    (isOpen : i.isOpen = .ok true) (opened : i.createdAt.fault? = none) {oldLabel : Option String}
    (source : (p.priorityLabel i).result = .ok (current, oldLabel)) :
    Judges p now i current oldLabel (decide p labels dryRun now [i]).result := by
  have answer : (decide p labels dryRun now [i]).result = (target? Float Pattern.found p now i current).map
      fun outcome => (outcome.map (proposal p (labels.map (·.map RemoteLabel.name)) i current oldLabel)).toList := by
    rw [decide, result_decideWith enabled hashable, filterMapM_singleton, outcome_of_isOpen isOpen source]
    cases target? Float Pattern.found p now i current <;> rfl
  rw [answer]
  exact judges_target? opened valid _ oldLabel

/-- With escalation enabled every issue is decided about by itself, at any time. -/
theorem decidesEach (enabled : p.automation.escalation.enabled = true)
    (hashable : ∀ label ∈ labels.getD [], label.name.unhashable = false) (valid : now.fault? = none) :
    DecidesEach p labels now where
  append dryRun xs ys := by
    simp only [decide, result_decideWith enabled hashable]
    exact filterMapM_append _ xs ys
  closed dryRun i isOpen := by
    rw [decide, result_decideWith enabled hashable, filterMapM_singleton, outcome, isOpen]
    rfl
  opened dryRun i isOpen opened := by
    exact ⟨_, _, p.result_priorityLabel i,
      judges_decide enabled hashable valid dryRun isOpen opened (p.result_priorityLabel i)⟩
  dryRun issues := by
    simp only [decide, result_decideWith enabled hashable]
  snapshot dryRun issues := by
    have bare : ∀ label ∈ (none : Option (List RemoteLabel)).getD [], label.name.unhashable = false := by simp
    rw [decide, decide, result_decideWith enabled hashable, result_decideWith enabled bare]
    exact map_filterMapM (map_assumed_outcome _) issues
  available dryRun issues decisions decided d member := by
    rw [decide, result_decideWith enabled hashable] at decided
    obtain ⟨i, -, about⟩ := mem_filterMapM decided member
    obtain ⟨-, current, oldLabel, -, outcome, -, rfl⟩ := outcome_eq_some about
    exact available_proposal
  later dryRun i opened d decided later valid' after := by
    rw [decide, result_decideWith enabled hashable, filterMapM_singleton] at decided ⊢
    obtain ⟨decision, about, made⟩ := map_eq_ok_iff.1 decided
    obtain rfl : decision = some d := by cases decision <;> simp_all
    obtain ⟨isOpen, current, oldLabel, source, outcome, found, -⟩ := outcome_eq_some about
    obtain ⟨outcome', found'⟩ := exists_target?_later opened valid valid' after found
    rw [outcome_of_isOpen isOpen source, found']
    exact ⟨_, rfl⟩

end

/-! ## A label that is not there, and a delay that cannot be written -/

/-- The labels on the tracker, of which one is known to be there. -/
def oneKnown : Option (List RemoteLabel) := some [.typed "P0" "b60205" none .null]

theorem low_is_decided :
    (twoPriorities.automation.escalation.enabled = true ∧
      (∀ label ∈ oneKnown.getD [], label.name.unhashable = false) ∧ threeWeeksOn.fault? = none) ∧
    ∀ later : Time.Moment, later.fault? = none → threeWeeksOn.instant ≤ later.instant →
      ∃ d, (decide twoPriorities oneKnown true later [opened ["priority/low"]]).result = .ok [d] := by
  have enabled : twoPriorities.automation.escalation.enabled = true := by decide
  have hashable : ∀ label ∈ oneKnown.getD [], label.name.unhashable = false := by decide
  have valid : threeWeeksOn.fault? = none := by decide
  have decided : (decide twoPriorities oneKnown true threeWeeksOn [opened ["priority/low"]]).result =
      .ok [{ becomesHigh with available := false }] := by decide +kernel
  exact ⟨⟨enabled, hashable, valid⟩,
    (decidesEach enabled hashable valid).later true _ (by decide) _ decided⟩

open Policy (overdue)

/-- A rule applies to the issue, whose priority it names, and yet there is no decision. -/
theorem overdue_is_not_decided :
    (overdue.automation.escalation.enabled = true ∧ (opened ["priority/P1"]).isOpen = .ok true ∧
      (overdue.priorityLabel (opened ["priority/P1"])).result = .ok ("P1", some "priority/P1") ∧
      (∃ rule, overdue.IsFirstRule "P1" (daysOpen (opened ["priority/P1"]) threeWeeksOn) rule)) ∧
    ∀ d, (decide overdue none true threeWeeksOn [opened ["priority/P1"]]).result ≠ .ok [d] := by
  have enabled : overdue.automation.escalation.enabled = true := by decide
  have isOpen : (opened ["priority/P1"]).isOpen = .ok true := by decide +kernel
  have source : (overdue.priorityLabel (opened ["priority/P1"])).result = .ok ("P1", some "priority/P1") := by
    decide +kernel
  have valid : threeWeeksOn.fault? = none := by decide
  have first : overdue.IsFirstRule "P1" (daysOpen (opened ["priority/P1"]) threeWeeksOn)
      ⟨"P1", "P0", -(10 ^ Decimal.digitLimit : Nat)⟩ := by
    refine ⟨[], [], rfl, ⟨rfl, ?_⟩, by simp⟩
    have least := (abs_le.1 (abs_daysOpen_le (i := opened ["priority/P1"]) (by decide) valid)).1
    have power : (2 : ℚ) ^ 60 ≤ (10 ^ Decimal.digitLimit : ℕ) := by
      calc (2 : ℚ) ^ 60 ≤ (10 ^ 19 : ℕ) := by norm_num
        _ ≤ (10 ^ Decimal.digitLimit : ℕ) := by
          exact_mod_cast Nat.pow_le_pow_right (show 0 < 10 by norm_num) (show 19 ≤ Decimal.digitLimit by decide)
    push_cast at power ⊢
    linarith
  refine ⟨⟨enabled, isOpen, source, _, first⟩, fun d decided => ?_⟩
  have judges : Judges overdue threeWeeksOn (opened ["priority/P1"]) "P1" (some "priority/P1")
      (decide overdue none true threeWeeksOn [opened ["priority/P1"]]).result :=
    judges_decide enabled (by simp) valid true isOpen (by decide) source
  have long : Decimal.isTooLong (-(10 ^ Decimal.digitLimit : Nat)) = true :=
    Decimal.isTooLong_iff.2 (by rw [Int.natAbs_neg, Int.natAbs_natCast])
  have unwritten := judges.unwritten (by decide +kernel) _ first long
  rw [decided] at unwritten
  cases unwritten

end Escalation

end Triage
