import Triage.Proofs.Decimal.Order
import Triage.Proofs.Labels.Carried
import Triage.Proofs.Order

/-!
# How issues stand

An evaluation says how each open issue stands against the time that its priority allows, and lists the issues
by urgency and by the time that they are past it. Issues that agree in both stay in their order.
-/

namespace Triage

/-! ## Open issues -/

/-- An issue in the open state. -/
def Issue.IsOpen (i : Issue) : Prop := i.isOpen = .ok true

instance (i : Issue) : Decidable i.IsOpen :=
  match state : i.isOpen with
  | .ok true => isTrue state
  | .ok false => isFalse fun isOpen => by simp [Issue.IsOpen, state] at isOpen
  | .error _ => isFalse fun isOpen => by simp [Issue.IsOpen, state] at isOpen

theorem Issue.isOpen_eq {i : Issue} (text : ∃ s, i.state = .text s) : i.isOpen = .ok (decide i.IsOpen) := by
  obtain ⟨s, state⟩ := text
  have answer : i.isOpen = .ok (Text.lower s == "open") := by rw [isOpen, state]
  rw [answer, Except.ok.injEq, Bool.eq_iff_iff, decide_eq_true_iff, IsOpen, answer, Except.ok.injEq]

/-- An issue has been left alone since the later of its two times. -/
theorem Issue.idle_eq (i : Issue) (now : Time.Moment) :
    i.idle now = now.instant - max i.createdAt.instant i.updatedAt.instant := by
  unfold idle lastTouched
  split <;> omega

/-! ## Exact hours -/

/-- The exact value of a number that is finite. -/
def Number.value? : Number → Option ℚ
  | .int n => some n
  | .float x => (Decimal.finite? x).map Decimal.Binary.toRat

theorem Number.ofNumber?_of_value? {n : Number} {value : ℚ} (exact : n.value? = some value) :
    Quantity.ofNumber? n = some value := by
  cases n with
  | int n => exact exact
  | float x => exact congrArg (fun value : Option ℚ => some (value.getD 0)) exact

/-- All hours are finite, and so is the share of the time in which there is a warning. -/
structure Policy.HasFiniteHours (p : Policy) : Prop where
  sla : ∀ priority hours, p.automation.blocked.sla.get? priority = some hours → ∃ value, hours.value? = some value
  ratio : ∃ value, (Number.float p.automation.blocked.warningRatio).value? = some value

theorem Policy.HasFiniteHours.resolveSla {p : Policy} (finite : p.HasFiniteHours) {override : Option Number}
    (given : ∀ hours ∈ override, ∃ value, hours.value? = some value) (priority : String) :
    ∃ value, (p.resolveSla priority override).value? = some value := by
  cases override with
  | some hours => exact given hours rfl
  | none =>
      cases configured : p.automation.blocked.sla.get? priority with
      | some hours =>
          obtain ⟨value, exact⟩ := finite.sla priority hours configured
          exact ⟨value, by rw [Policy.resolveSla, configured]; exact exact⟩
      | none => exact ⟨p.slaHours priority, by rw [Policy.resolveSla, configured]; rfl⟩

namespace Sla

section

variable {α : Type} [Quantity α] {p : Policy} {override : Option Number} {now : Time.Moment} {issues : List Issue}

/-- The standing of an open issue. -/
def standingOf (α : Type) [Quantity α] (p : Policy) (override : Option Number) (now : Time.Moment) (i : Issue) :
    Except Fault (Standing α) :=
  standing p override i ((p.carriedNames i .priority).headD fallbackPriority) (i.idle now)

theorem result_standings (texts : ∀ i ∈ issues, ∃ s, i.state = .text s) :
    (standings p override now issues : Run (List (Standing α))).result =
      (issues.filter (·.IsOpen)).mapM (standingOf α p override now) := by
  induction issues with
  | nil => rfl
  | cons i rest ih =>
      obtain ⟨text, others⟩ := List.forall_mem_cons.1 texts
      rw [standings, Run.result_bind, Run.result_liftM, Issue.isOpen_eq text]
      by_cases isOpen : i.IsOpen
      · rw [List.filter_cons_of_pos (by simpa using isOpen), List.mapM_cons, decide_eq_true isOpen, ← ih others]
        change (p.priorityLabel i >>= _).result = _
        rw [Run.result_bind, p.result_priorityLabel]
        change ((liftM (standingOf α p override now i) : Run (Standing α)) >>= _).result = _
        rw [Run.result_bind, Run.result_liftM]
        simp only [Run.result_bind, Run.result_pure]
        rfl
      · rw [List.filter_cons_of_neg (by simpa using isOpen), decide_eq_false isOpen]
        exact ih others

/-- An evaluation puts the standings in order. -/
theorem result_evaluate (texts : ∀ i ∈ issues, ∃ s, i.state = .text s) :
    (evaluate p override now issues : Run (List (Standing α))).result =
      ((issues.filter (·.IsOpen)).mapM (standingOf α p override now)).map inOrder := by
  rw [evaluate, Run.result_bind, result_standings texts]
  cases (issues.filter (·.IsOpen)).mapM (standingOf α p override now) with
  | error fault => rfl
  | ok listed =>
      change Run.result (if _ then _ else _) = _
      split <;> rfl

end

/-! ## Standings in fractions -/

section

variable {p : Policy} {override : Option Number} {now : Time.Moment} {i : Issue} {issues : List Issue}
  {exceeded sla ratio : ℚ}

theorem classify_eq (exceeded sla ratio : ℚ) : classify exceeded sla ratio =
    if 0 < exceeded then .blocked else if -ratio * sla < exceeded then .warning else .ok := by
  have less (a b : ℚ) : Quantity.less a b = decide (a < b) := rfl
  have zero : (Quantity.ofNat 0 : ℚ) = 0 := Nat.cast_zero
  simp only [classify, less, zero, decide_eq_true_eq]

theorem classify_iff (exceeded sla ratio : ℚ) : (classify exceeded sla ratio = .blocked ↔ 0 < exceeded) ∧
    (classify exceeded sla ratio = .warning ↔ ¬ 0 < exceeded ∧ -ratio * sla < exceeded) ∧
    (classify exceeded sla ratio = .ok ↔ ¬ 0 < exceeded ∧ ¬ -ratio * sla < exceeded) := by
  rw [classify_eq]
  by_cases past : 0 < exceeded
  · simp [past]
  · rw [if_neg past]
    by_cases near : -ratio * sla < exceeded
    · rw [if_pos near]
      exact ⟨iff_of_false (by decide) past, iff_of_true rfl ⟨past, near⟩, iff_of_false (by decide) fun ok => ok.2 near⟩
    · rw [if_neg near]
      exact ⟨iff_of_false (by decide) past, iff_of_false (by decide) fun warned => near warned.2,
        iff_of_true rfl ⟨past, near⟩⟩

/-- The hours that an issue has been left alone are set against those that its priority allows. -/
structure Measures (idle : ℤ) (hours ratio : ℚ) (s : Standing ℚ) : Prop where
  age : s.age = idle / 3600000000
  exceeded : s.exceeded = s.age - hours
  blocked : s.urgency = .blocked ↔ 0 < s.exceeded
  warning : s.urgency = .warning ↔ ¬ 0 < s.exceeded ∧ -ratio * hours < s.exceeded
  ok : s.urgency = .ok ↔ ¬ 0 < s.exceeded ∧ ¬ -ratio * hours < s.exceeded

/-- A standing tells of an issue how it stands at a time. -/
structure Describes (p : Policy) (override : Option Number) (now : Time.Moment) (i : Issue) (s : Standing ℚ) :
    Prop where
  number : s.number = i.number
  title : s.title = i.title
  priority : ∃ label, (p.priorityLabel i).result = .ok (s.priority, label)
  sla : s.sla = p.resolveSla s.priority override
  measures : ∃ hours ratio, s.sla.value? = some hours ∧
    (Number.float p.automation.blocked.warningRatio).value? = some ratio ∧
    Measures (now.instant - max i.createdAt.instant i.updatedAt.instant) hours ratio s

theorem exists_describes (finite : p.HasFiniteHours) (given : ∀ hours ∈ override, ∃ value, hours.value? = some value)
    (now : Time.Moment) (i : Issue) : ∃ s, standingOf ℚ p override now i = .ok s ∧ Describes p override now i s := by
  obtain ⟨hours, exact⟩ := finite.resolveSla given ((p.carriedNames i .priority).headD fallbackPriority)
  obtain ⟨ratio, share⟩ := finite.ratio
  have read : Quantity.ofNumber? (p.resolveSla ((p.carriedNames i .priority).headD fallbackPriority) override) =
      some hours := Number.ofNumber?_of_value? exact
  have warned : ratOf p.automation.blocked.warningRatio = ratio := by
    exact congrArg (fun value : Option ℚ => value.getD 0) share
  have age : (Quantity.hours (i.idle now) : ℚ) =
      (now.instant - max i.createdAt.instant i.updatedAt.instant : ℤ) / 3600000000 := by
    rw [← i.idle_eq now]
    change mkRat (i.idle now) 1000000 / ((3600 : ℕ) : ℚ) = _
    rw [Rat.mkRat_eq_div]
    push_cast
    ring
  unfold standingOf standing
  simp only [read]
  have urgency := classify_iff (Quantity.hours (i.idle now) - hours) hours ratio
  rw [← warned] at urgency
  obtain ⟨blocked, warning, ok⟩ := urgency
  exact ⟨_, rfl, rfl, rfl, ⟨_, p.result_priorityLabel i⟩, rfl, hours, _, exact, warned ▸ share, age, rfl, blocked,
    warning, ok⟩

/-! ## The list -/

/-- The place of a standing in the list: the urgency counts first, then the time past what is allowed. -/
def keyOf (s : Standing ℚ) : ℕ ×ₗ ℚ := toLex (s.urgency.rank, -s.exceeded)

theorem before_iff (a b : Standing ℚ) : before a b = true ↔ keyOf a < keyOf b := by
  have less : Quantity.less b.exceeded a.exceeded = decide (b.exceeded < a.exceeded) := rfl
  simp only [before, less, keyOf, Prod.Lex.toLex_lt_toLex, Bool.or_eq_true, Bool.and_eq_true, decide_eq_true_eq,
    beq_iff_eq, neg_lt_neg_iff]

theorem rank_injective : Function.Injective Urgency.rank := by
  intro first second same
  cases first <;> cases second <;> first | rfl | cases same

/-- What a list of standings is put in order as. -/
structure Ranks (listed results : List (Standing ℚ)) : Prop where
  complete : results.Perm listed
  ordered : results.Pairwise fun a b =>
    a.urgency.rank < b.urgency.rank ∨ a.urgency = b.urgency ∧ b.exceeded ≤ a.exceeded
  stable : ∀ urgency exceeded, results.filter (fun s => s.urgency = urgency ∧ s.exceeded = exceeded) =
    listed.filter fun s => s.urgency = urgency ∧ s.exceeded = exceeded

theorem ranks_inOrder (listed : List (Standing ℚ)) : Ranks listed (inOrder listed) := by
  have sorted : inOrder listed = Order.sort before listed := if_pos (List.all_eq_true.2 fun _ _ => rfl)
  rw [sorted]
  refine ⟨List.mergeSort_perm _ _, (Order.pairwise_sort keyOf before_iff listed).imp ?_, fun urgency exceeded => ?_⟩
  · intro a b order
    obtain urgent | ⟨same, past⟩ := Prod.Lex.toLex_le_toLex.1 order
    · exact .inl urgent
    · exact .inr ⟨rank_injective same, neg_le_neg_iff.1 past⟩
  · have key (s : Standing ℚ) : (s.urgency = urgency ∧ s.exceeded = exceeded) ↔
        keyOf s = toLex (urgency.rank, -exceeded) := by
      rw [keyOf, toLex_inj, Prod.mk.injEq, rank_injective.eq_iff, neg_inj]
    simp only [key]
    exact Order.filter_sort keyOf before_iff _ listed

/-- An evaluation ranks what there is to tell of each open issue. -/
theorem exists_evaluation (finite : p.HasFiniteHours) (given : ∀ hours ∈ override, ∃ value, hours.value? = some value)
    (now : Time.Moment) : ∃ stand : Issue → Standing ℚ, (∀ i, Describes p override now i (stand i)) ∧
      ∀ issues : List Issue, (∀ i ∈ issues, ∃ s, i.state = .text s) → ∃ results,
        (evaluate p override now issues).result = .ok results ∧ Ranks ((issues.filter (·.IsOpen)).map stand) results := by
  obtain ⟨stand, each⟩ := Classical.axiomOfChoice (exists_describes finite given now)
  refine ⟨stand, fun i => (each i).2, fun issues texts => ⟨_, ?_, ranks_inOrder _⟩⟩
  have answers : standingOf ℚ p override now = fun i => pure (stand i) := funext fun i => (each i).1
  rw [result_evaluate texts, answers, List.mapM_pure]
  rfl

/-- An evaluation describes every open issue once, and ranks the descriptions. -/
theorem evaluate_ranks (finite : p.HasFiniteHours) (given : ∀ hours ∈ override, ∃ value, hours.value? = some value)
    (texts : ∀ i ∈ issues, ∃ s, i.state = .text s) (now : Time.Moment) :
    ∃ listed results, List.Forall₂ (Describes p override now) (issues.filter (·.IsOpen)) listed ∧
      (evaluate p override now issues).result = .ok results ∧ Ranks listed results := by
  obtain ⟨stand, described, evaluated⟩ := exists_evaluation finite given now
  obtain ⟨results, answered, ranked⟩ := evaluated issues texts
  exact ⟨_, results, List.forall₂_map_right_iff.2 (List.forall₂_same.2 fun i _ => described i), answered, ranked⟩

end

/-! ## Four issues -/

/-- An issue of a high priority that was opened on a day of March. -/
def openedOn (number : ℤ) (day : ℕ) (state : String) : Issue where
  number := number
  title := .text "Slow start"
  body := .text ""
  labels := .ofList ["priority/P1"]
  createdAt := ⟨⟨2026, 3, day⟩, 9, 0, 0, 0, some 0⟩
  updatedAt := ⟨⟨2026, 3, day⟩, 9, 0, 0, 0, some 0⟩
  state := .text state

/-- The first of the month is long past, the twentieth is not, and a closed issue does not count. -/
def march : List Issue := [openedOn 1 20 "open", openedOn 2 1 "open", openedOn 3 1 "closed", openedOn 4 20 "open"]

theorem wellTyped_march : ∀ i ∈ march, i.WellTyped := by
  have typed (number : ℤ) (day : ℕ) (state : String) : (openedOn number day state).WellTyped :=
    ⟨⟨_, rfl⟩, ⟨_, rfl⟩, ⟨_, rfl⟩⟩
  simp [march, typed]

def noonOfTheTwentieth : Time.Moment := ⟨⟨2026, 3, 20⟩, 12, 0, 0, 0, some 0⟩

def newProject : Policy := Policy.starter ⟨.backend, none, none, none⟩

theorem newProject_hasFiniteHours : newProject.HasFiniteHours where
  sla priority hours configured := by cases configured
  ratio := ⟨_, rfl⟩

/-- Three issues of March are open, two of them equally far from their time. -/
theorem march_is_ranked :
    newProject.HasFiniteHours ∧ (∀ i ∈ march, ∃ s, i.state = .text s) ∧
      (standings newProject none noonOfTheTwentieth march).result.map
        (List.map fun s : Standing ℚ => (s.number, s.urgency, s.exceeded)) =
          .ok [(1, .ok, -21), (2, .blocked, 435), (4, .ok, -21)] ∧
      ∃ listed results, List.Forall₂ (Describes newProject none noonOfTheTwentieth) (march.filter (·.IsOpen)) listed ∧
        (evaluate newProject none noonOfTheTwentieth march).result = .ok results ∧ Ranks listed results := by
  have texts : ∀ i ∈ march, ∃ s, i.state = .text s := fun i member => (wellTyped_march i member).state
  exact ⟨newProject_hasFiniteHours, texts, by decide +kernel,
    evaluate_ranks newProject_hasFiniteHours (by simp) texts noonOfTheTwentieth⟩

end Sla

end Triage
