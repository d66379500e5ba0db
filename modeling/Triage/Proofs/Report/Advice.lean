import Triage.Proofs.Decimal.Places
import Triage.Proofs.Report.Accounts

/-!
# Advice on the age of issues

A report reckons its score of health from the average age of the open issues, and gives advice on stale issues by the
average age that it shows, which has one decimal place. So an average that is above thirty days by no more than half a
tenth of a day costs points and is passed over in silence.
-/

namespace Triage

/-! ## Averages -/

namespace Decimal

variable {x : ℚ} {n places : ℕ}

theorem roundPlacesRat_nonpos (places : ℕ) (below : x < 0) : roundPlacesRat places x ≤ 0 := by
  rw [roundPlacesRat, if_pos (Rat.num_neg.2 below), Rat.mkRat_eq_div]
  exact neg_nonpos.2 (by positivity)

/-- A fraction that is not below zero is rounded to the nearest multiple of a power of ten. -/
theorem exists_nearest_roundPlacesRat (places : ℕ) (low : 0 ≤ x) :
    ∃ k : ℕ, Nearest (x * 10 ^ places) k ∧ roundPlacesRat places x = k / 10 ^ places := by
  have positive : 0 ≤ x.num := Rat.num_nonneg.2 low
  have power : ((Nat.pow 10 places : ℕ) : ℚ) = 10 ^ places := Nat.cast_pow 10 places
  refine ⟨roundQuotient (x.num.natAbs * Nat.pow 10 places) x.den, ?_, ?_⟩
  · have parts : x * 10 ^ places = ((x.num.natAbs * Nat.pow 10 places : ℕ) : ℚ) / x.den := by
      rw [Nat.cast_mul, power, Nat.cast_natAbs, abs_of_nonneg positive, mul_div_right_comm, Rat.num_div_den]
    rw [parts]
    exact nearest_roundQuotient x.den_pos
  · rw [roundPlacesRat, if_neg (not_lt.2 positive), Rat.mkRat_eq_div, power, Int.cast_natCast]

/-- A rounded fraction is more than an even number of units of its last place if the fraction is more than half a unit
above them. -/
theorem lt_roundPlacesRat_iff (even : n % 2 = 0) :
    n / 10 ^ places < roundPlacesRat places x ↔ 2 * n + 1 < 2 * (x * 10 ^ places) := by
  have unit : (0 : ℚ) < 10 ^ places := by positivity
  have whole : (0 : ℚ) ≤ n := n.cast_nonneg
  rcases lt_or_ge x 0 with below | low
  · have less : x * 10 ^ places < 0 := mul_neg_of_neg_of_pos below unit
    refine iff_of_false (not_lt.2 ?_) (by linarith)
    exact (roundPlacesRat_nonpos places below).trans (div_nonneg whole unit.le)
  · obtain ⟨k, near, rounded⟩ := exists_nearest_roundPlacesRat places low
    rw [rounded, div_lt_div_iff_of_pos_right unit, Nat.cast_lt, ← not_le, near.le_iff_of_even even, not_le]

end Decimal

/-! ## Exact evaluations -/

namespace Sla

variable {p : Policy} {override : Option Number} {now : Time.Moment} {issues : List Issue}

/-- In fractions there is a standing of every issue. -/
theorem exists_standingOf (p : Policy) (override : Option Number) (now : Time.Moment) (i : Issue) :
    ∃ s : Standing ℚ, standingOf ℚ p override now i = .ok s := by
  unfold standingOf standing
  cases p.resolveSla ((p.carriedNames i .priority).headD fallbackPriority) override with
  | int hours => exact ⟨_, rfl⟩
  | float x => exact ⟨_, rfl⟩

theorem exists_result_evaluate (texts : ∀ i ∈ issues, ∃ s, i.state = .text s) :
    ∃ results : List (Standing ℚ), (evaluate p override now issues).result = .ok results := by
  choose stand each using exists_standingOf p override now
  have answers : standingOf ℚ p override now = fun i => pure (stand i) := funext each
  rw [result_evaluate texts, answers, List.mapM_pure]
  exact ⟨_, rfl⟩

end Sla

namespace Report

variable {α : Type} {p : Policy} {closed : ℤ} {now : Time.Moment} {issues : List Issue} {line : String}

/-! ## The average age -/

/-- The average age of some issues in days; without any it is zero. -/
def averageDays (now : Time.Moment) (issues : List Issue) : ℚ :=
  (issues.map fun i => (i.age now : ℚ) / 86400000000).sum / issues.length

theorem days_eq (microseconds : ℤ) : (Quantity.days microseconds : ℚ) = microseconds / 86400000000 := by
  change mkRat microseconds 1000000 / ((86400 : ℕ) : ℚ) = _
  rw [Rat.mkRat_eq_div]
  push_cast
  ring

theorem sum_eq (xs : List ℚ) : Quantity.sum xs = xs.sum := by
  change xs.foldl (· + ·) ((0 : ℕ) : ℚ) = _
  rw [Nat.cast_zero, ← List.sum_eq_foldl]

theorem meanAge_eq (now : Time.Moment) (issues : List Issue) : (meanAge now issues : ℚ) = averageDays now issues := by
  cases issues with
  | nil =>
      rw [averageDays, List.map_nil, List.sum_nil, zero_div]
      exact Nat.cast_zero
  | cons i rest =>
      simp only [meanAge, averageDays, sum_eq, days_eq]
      rfl

theorem agePenalty_eq_twenty_iff {average : ℚ} : agePenalty average = 20 ↔ 30 < average := by
  have less (n : ℕ) : Quantity.less (Quantity.ofNat n) average = decide ((n : ℚ) < average) := rfl
  unfold agePenalty
  simp only [less, decide_eq_true_eq]
  by_cases old : (30 : ℚ) < average
  · exact iff_of_true (if_pos old) old
  · refine iff_of_false ?_ old
    rw [if_neg (by exact_mod_cast old)]
    split <;> decide

/-! ## The advice on it -/

/-- The advice to review stale issues. -/
def StaleAdvice (line : String) : Prop :=
  ∃ days, line = "Average issue age is " ++ days ++ " days; review stale issues"

theorem mem_adviceOn {condition : Bool} {advice : String} :
    line ∈ adviceOn condition advice ↔ condition = true ∧ line = advice := by
  cases condition <;> simp [adviceOn]

theorem StaleAdvice.head?_eq (stale : StaleAdvice line) : line.toList.head? = some 'A' := by
  obtain ⟨days, rfl⟩ := stale
  rw [String.append_assoc, String.toList_append, List.head?_append]
  rfl

theorem StaleAdvice.getLast?_eq (stale : StaleAdvice line) : line.toList.getLast? = some 's' := by
  obtain ⟨days, rfl⟩ := stale
  rw [String.toList_append, List.getLast?_append]
  rfl

/-- Other advice ends in another letter. -/
theorem not_staleAdvice_append {words : String} {last : Char} (ends : words.toList.getLast? = some last)
    (other : last ≠ 's') (start : String) : ¬ StaleAdvice (start ++ words) := by
  intro stale
  have same := stale.getLast?_eq
  rw [String.toList_append, List.getLast?_append, ends] at same
  exact other (Option.some.inj same)

section

variable [Quantity α]

theorem staleAdvice_mem_advice_iff (r : Report α) :
    (∃ line ∈ advice r, StaleAdvice line) ↔ Quantity.less (Quantity.ofNat 30) r.averageAge = true := by
  constructor
  · rintro ⟨line, member, stale⟩
    simp only [advice, List.mem_append, mem_adviceOn] at member
    -- Five pieces of advice begin with a count, so these are told by their ends, and the last one by its beginning.
    rcases member with (((((⟨-, rfl⟩ | ⟨-, rfl⟩) | ⟨-, rfl⟩) | ⟨-, rfl⟩) | ⟨-, rfl⟩) | ⟨old, -⟩) | ⟨-, rfl⟩
    · exact absurd stale (not_staleAdvice_append rfl (by decide) _)
    · exact absurd stale (not_staleAdvice_append rfl (by decide) _)
    · exact absurd stale (not_staleAdvice_append rfl (by decide) _)
    · exact absurd stale (not_staleAdvice_append rfl (by decide) _)
    · exact absurd stale (not_staleAdvice_append rfl (by decide) _)
    · exact old
    · exact absurd stale.head?_eq (by decide)
  · intro old
    refine ⟨_, ?_, Quantity.fixed 1 r.averageAge, rfl⟩
    simp only [advice, List.mem_append, mem_adviceOn]
    exact .inl (.inr ⟨old, rfl⟩)

theorem staleAdvice_mem_recommend_iff (r : Report α) :
    (∃ line ∈ recommend r, StaleAdvice line) ↔ Quantity.less (Quantity.ofNat 30) r.averageAge = true := by
  rw [← staleAdvice_mem_advice_iff, recommend]
  by_cases quiet : advice r = []
  · rw [quiet, List.isEmpty_nil, if_pos rfl]
    have healthy : ¬ StaleAdvice "Workflow is healthy" := fun stale => absurd stale.head?_eq (by decide)
    simpa using healthy
  · rw [if_neg (by simpa using quiet)]

/-! ## The whole report -/

/-- A report rests on an average age: its score on the average itself, its advice on the one that it shows. -/
structure Rests (average : α) (r : Report α) : Prop where
  shown : r.averageAge = Quantity.round 1 average
  scored : r.health = healthScore r.blocked (countOf r.byPriority topPriority) average
  advised : (∃ line ∈ r.recommendations, StaleAdvice line) ↔
    Quantity.less (Quantity.ofNat 30) (Quantity.round 1 average) = true

theorem exists_report {results : List (Standing α)} (texts : ∀ i ∈ issues, ∃ s, i.state = .text s) (closed : ℤ)
    (evaluated : (Sla.evaluate p none now (issues.filter (·.IsOpen))).result = .ok results) :
    ∃ r : Report α, (build p closed now issues).result = .ok r ∧ Rests (meanAge now (issues.filter (·.IsOpen))) r := by
  rw [build, Run.result_bind, Run.result_liftM, Issue.openOnes_eq texts]
  change ∃ r, (Sla.evaluate p none now (issues.filter (·.IsOpen)) >>= _).result = .ok r ∧ _
  rw [Run.result_bind, evaluated]
  exact ⟨_, rfl, rfl, rfl, staleAdvice_mem_recommend_iff _⟩

end

theorem lt_round_iff {average : ℚ} :
    Quantity.less (Quantity.ofNat 30) (Quantity.round 1 average) = true ↔ 601 / 20 < average := by
  have units : ((300 : ℕ) : ℚ) / 10 ^ 1 < Decimal.roundPlacesRat 1 average ↔
      2 * ((300 : ℕ) : ℚ) + 1 < 2 * (average * 10 ^ 1) := Decimal.lt_roundPlacesRat_iff (by decide)
  have thirty : ((300 : ℕ) : ℚ) / 10 ^ 1 = (30 : ℕ) := by norm_num
  change decide (((30 : ℕ) : ℚ) < Decimal.roundPlacesRat 1 average) = true ↔ _
  -- Thirty is an even number of tenths, so half a tenth above it is still rounded down.
  rw [decide_eq_true_iff, ← thirty, units]
  push_cast
  constructor <;> intro old <;> linarith

/-- In fractions a report charges for an average age above thirty days, and gives advice on one above thirty days and
half a tenth. -/
structure Ages (average : ℚ) (r : Report ℚ) : Prop where
  scored : r.health = healthScore r.blocked (countOf r.byPriority topPriority) average
  charged : agePenalty average = 20 ↔ 30 < average
  advised : (∃ line ∈ r.recommendations, StaleAdvice line) ↔ 601 / 20 < average
  apart : ¬ (agePenalty average = 20 ↔ ∃ line ∈ r.recommendations, StaleAdvice line) ↔
    30 < average ∧ average ≤ 601 / 20

theorem Rests.ages {average : ℚ} {r : Report ℚ} (rests : Rests average r) : Ages average r where
  scored := rests.scored
  charged := agePenalty_eq_twenty_iff
  advised := rests.advised.trans lt_round_iff
  apart := by
    rw [agePenalty_eq_twenty_iff, rests.advised.trans lt_round_iff]
    constructor
    · intro differ
      have old : 30 < average := by
        by_contra young
        exact differ (iff_of_false young fun older => young (lt_trans (by norm_num) older))
      exact ⟨old, not_lt.1 fun older => differ (iff_of_true old older)⟩
    · rintro ⟨old, most⟩ same
      exact absurd (same.1 old) (not_lt.2 most)

/-- There is a report on the average age of the open issues. Its score and its advice differ just where the average is
above thirty days and is shown as thirty. -/
theorem build_ages (texts : ∀ i ∈ issues, ∃ s, i.state = .text s) (p : Policy) (closed : ℤ) (now : Time.Moment) :
    ∃ r : Report ℚ, (build p closed now issues).result = .ok r ∧
      Ages (averageDays now (issues.filter (·.IsOpen))) r := by
  have texts' : ∀ i ∈ issues.filter (·.IsOpen), ∃ s, i.state = .text s :=
    fun i member => texts i (List.mem_filter.1 member).1
  obtain ⟨results, evaluated⟩ := Sla.exists_result_evaluate texts'
  obtain ⟨r, built, rests⟩ := exists_report texts closed evaluated
  rw [meanAge_eq] at rests
  exact ⟨r, built, rests.ages⟩

/-- The issues of March are old enough at the end of April. -/
theorem march_is_stale : (∀ i ∈ Sla.march, ∃ s, i.state = .text s) ∧
    30 < averageDays ⟨⟨2026, 4, 30⟩, 12, 0, 0, 0, some 0⟩ (Sla.march.filter (·.IsOpen)) ∧
    ∃ r : Report ℚ, (build Sla.newProject 2 ⟨⟨2026, 4, 30⟩, 12, 0, 0, 0, some 0⟩ Sla.march).result = .ok r ∧
      ∃ line ∈ r.recommendations, StaleAdvice line := by
  have texts : ∀ i ∈ Sla.march, ∃ s, i.state = .text s := fun i member => (Sla.wellTyped_march i member).state
  have older : 601 / 20 < averageDays ⟨⟨2026, 4, 30⟩, 12, 0, 0, 0, some 0⟩ (Sla.march.filter (·.IsOpen)) := by
    decide +kernel
  obtain ⟨r, built, ages⟩ := build_ages texts Sla.newProject 2 ⟨⟨2026, 4, 30⟩, 12, 0, 0, 0, some 0⟩
  exact ⟨texts, lt_trans (by norm_num) older, r, built, ages.advised.2 older⟩

/-! ## Thirty days and an hour -/

/-- A report without any blocked or most urgent issue charges twenty points, and gives no advice on stale issues. -/
structure PassesOver (r : Report α) : Prop where
  blocked : r.blocked = 0
  top : countOf r.byPriority topPriority = 0
  charged : r.health = 80
  silent : ∀ line ∈ r.recommendations, ¬ StaleAdvice line

theorem passesOver_of_map_eq {x : Except Fault (Report α)}
    (answer : x.map (fun r => (r.blocked, countOf r.byPriority topPriority, r.health, r.recommendations)) =
      .ok (0, 0, 80, ["1 issue(s) are past their SLA; handle them first", "1 issue(s) have no status label"])) :
    ∃ r, x = .ok r ∧ PassesOver r := by
  obtain ⟨r, answered, parts⟩ := map_eq_ok_iff.1 answer
  obtain ⟨blocked, parts⟩ := Prod.mk.inj parts
  obtain ⟨top, parts⟩ := Prod.mk.inj parts
  obtain ⟨health, lines⟩ := Prod.mk.inj parts
  refine ⟨r, answered, blocked, top, health, fun line member stale => ?_⟩
  rw [lines, List.mem_cons, List.mem_singleton] at member
  rcases member with rfl | rfl
  · exact absurd stale.head?_eq (by decide)
  · exact absurd stale.head?_eq (by decide)

/-- An issue that was opened on the first of the month. -/
def monthOld : List Issue := [Sla.openedOn 2 1 "open"]

/-- Thirty days later, and an hour. -/
def endOfMarch : Time.Moment := ⟨⟨2026, 3, 31⟩, 10, 0, 0, 0, some 0⟩

/-- In either kind of numbers. -/
theorem monthOld_is_passed_over : 30 < averageDays endOfMarch (monthOld.filter (·.IsOpen)) ∧
    (∃ r : Report ℚ, (build Sla.newProject 1 endOfMarch monthOld).result = .ok r ∧ PassesOver r) ∧
    ∃ r : Report Float, (build Sla.newProject 1 endOfMarch monthOld).result = .ok r ∧ PassesOver r := by
  refine ⟨by decide +kernel, ?_, ?_⟩
  · exact passesOver_of_map_eq (by decide +kernel)
  · exact passesOver_of_map_eq (by decide +kernel)

end Report

end Triage
