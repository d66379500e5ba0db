import Triage.Proofs.Policy.Text
import Triage.Proofs.Sla.Standings

/-!
# Urgency over time

An issue does not become less urgent as time passes, nor when it is allowed less time. The limit of the warning
moves with the time allowed, but not as fast, since the share in which there is a warning is less than the whole.
-/

namespace Triage.Sla

variable {p : Policy} {override : Option Number} {now later : Time.Moment} {i : Issue} {idle idle' : ℤ}
  {hours hours' ratio : ℚ} {s s' : Standing ℚ}

/-! ## One issue -/

namespace Measures

/-- A standing that is at least as far past the time allowed, and past the limit of the warning where the other
one is, is at least as urgent. -/
theorem rank_le (measures : Measures idle hours ratio s) (measures' : Measures idle' hours' ratio s')
    (further : s.exceeded ≤ s'.exceeded) (warned : -ratio * hours < s.exceeded → -ratio * hours' < s'.exceeded) :
    s'.urgency.rank ≤ s.urgency.rank := by
  cases before : s.urgency with
  | blocked =>
      rw [measures'.blocked.2 (lt_of_lt_of_le (measures.blocked.1 before) further)]
  | warning =>
      have limit := warned (measures.warning.1 before).2
      cases after : s'.urgency with
      | ok => exact absurd limit (measures'.ok.1 after).2
      | blocked | warning => decide
  | ok => cases s'.urgency <;> decide

/-- Time that passes counts against the issue. -/
theorem rank_le_of_idle_le (measures : Measures idle hours ratio s) (measures' : Measures idle' hours ratio s')
    (longer : idle ≤ idle') : s'.urgency.rank ≤ s.urgency.rank := by
  have age : s.age ≤ s'.age := by
    rw [measures.age, measures'.age]
    exact div_le_div_of_nonneg_right (by exact_mod_cast longer) (by norm_num)
  have further : s.exceeded ≤ s'.exceeded := by
    rw [measures.exceeded, measures'.exceeded]
    exact sub_le_sub_right age hours
  exact measures.rank_le measures' further fun limit => limit.trans_le further

/-- So does time that is not allowed, as long as the warning does not take up the whole time. -/
theorem rank_le_of_hours_le (measures : Measures idle hours ratio s) (measures' : Measures idle hours' ratio s')
    (fewer : hours' ≤ hours) (share : ratio < 1) : s'.urgency.rank ≤ s.urgency.rank := by
  have age : s'.age = s.age := measures'.age.trans measures.age.symm
  refine measures.rank_le measures' ?_ fun limit => ?_
  · rw [measures.exceeded, measures'.exceeded, age]
    exact sub_le_sub_left fewer s.age
  · rw [measures.exceeded] at limit
    rw [measures'.exceeded, age]
    have rest : (1 - ratio) * hours' ≤ (1 - ratio) * hours := mul_le_mul_of_nonneg_left fewer (by linarith)
    linarith

end Measures

/-- Two descriptions of an issue tell the same priority. -/
theorem Describes.priority_eq {override' : Option Number} (describes : Describes p override now i s)
    (describes' : Describes p override' later i s') : s'.priority = s.priority := by
  obtain ⟨label, found⟩ := describes.priority
  obtain ⟨label', found'⟩ := describes'.priority
  rw [found, Except.ok.injEq, Prod.mk.injEq] at found'
  exact found'.1.symm

theorem rank_le_later (describes : Describes p override now i s) (describes' : Describes p override later i s')
    (after : now.instant ≤ later.instant) : s'.urgency.rank ≤ s.urgency.rank := by
  obtain ⟨hours, ratio, exact, share, measures⟩ := describes.measures
  obtain ⟨hours', ratio', exact', share', measures'⟩ := describes'.measures
  have same : s'.sla = s.sla := by
    rw [describes.sla, describes'.sla, describes.priority_eq describes']
  rw [same, exact] at exact'
  rw [share] at share'
  cases exact'
  cases share'
  exact measures.rank_le_of_idle_le measures' (by omega)

theorem rank_le_override {wide narrow : Number} {most least : ℚ} (describes : Describes p (some wide) now i s)
    (describes' : Describes p (some narrow) now i s') (wideExact : wide.value? = some most)
    (narrowExact : narrow.value? = some least) (fewer : least ≤ most)
    (below : (Number.float p.automation.blocked.warningRatio).belowOne = true) :
    s'.urgency.rank ≤ s.urgency.rank := by
  obtain ⟨hours, ratio, exact, share, measures⟩ := describes.measures
  obtain ⟨hours', ratio', exact', share', measures'⟩ := describes'.measures
  have limit : ratio < 1 := by
    have value : ratOf p.automation.blocked.warningRatio = ratio :=
      congrArg (fun value : Option ℚ => value.getD 0) share
    exact value ▸ (Decimal.ratOf_of_belowOne below).2
  rw [describes.sla] at exact
  rw [describes'.sla] at exact'
  rw [share] at share'
  cases share'
  cases wideExact.symm.trans exact
  cases narrowExact.symm.trans exact'
  exact measures.rank_le_of_hours_le measures' fewer limit

/-! ## All issues -/

/-- Whatever the issues are, a second evaluation gives each open one an urgency that is no less than that of a
first one. -/
def NoLessUrgent (p : Policy) (override : Option Number) (now : Time.Moment) (override' : Option Number)
    (now' : Time.Moment) : Prop :=
  ∀ issues : List Issue, (∀ i ∈ issues, ∃ s, i.state = .text s) → ∃ listed listed' results results',
    List.Forall₂ (Describes p override now) (issues.filter (·.IsOpen)) listed ∧
    List.Forall₂ (Describes p override' now') (issues.filter (·.IsOpen)) listed' ∧
    (evaluate p override now issues).result = .ok results ∧ Ranks listed results ∧
    (evaluate p override' now' issues).result = .ok results' ∧ Ranks listed' results' ∧
    List.Forall₂ (fun s s' => s'.urgency.rank ≤ s.urgency.rank) listed listed'

theorem noLessUrgent (finite : p.HasFiniteHours) {override' : Option Number}
    (given : ∀ hours ∈ override, ∃ value, hours.value? = some value)
    (given' : ∀ hours ∈ override', ∃ value, hours.value? = some value)
    (urgent : ∀ i s s', Describes p override now i s → Describes p override' later i s' →
      s'.urgency.rank ≤ s.urgency.rank) : NoLessUrgent p override now override' later := by
  intro issues texts
  obtain ⟨stand, described, evaluated⟩ := exists_evaluation finite given now
  obtain ⟨stand', described', evaluated'⟩ := exists_evaluation finite given' later
  obtain ⟨results, answered, ranked⟩ := evaluated issues texts
  obtain ⟨results', answered', ranked'⟩ := evaluated' issues texts
  refine ⟨_, _, results, results', ?_, ?_, answered, ranked, answered', ranked', ?_⟩
  · exact List.forall₂_map_right_iff.2 (List.forall₂_same.2 fun i _ => described i)
  · exact List.forall₂_map_right_iff.2 (List.forall₂_same.2 fun i _ => described' i)
  · refine List.forall₂_map_left_iff.2 (List.forall₂_map_right_iff.2 (List.forall₂_same.2 fun i _ => ?_))
    exact urgent i _ _ (described i) (described' i)

/-- Under a policy that was read, an issue is no less urgent later on, nor under a narrower override. -/
theorem urgency_monotone {document : String} (read : (Policy.ofText document).result = .ok p)
    (finite : p.HasFiniteHours) :
    (∀ override : Option Number, (∀ hours ∈ override, ∃ value, hours.value? = some value) →
      ∀ now later : Time.Moment, now.instant ≤ later.instant → NoLessUrgent p override now override later) ∧
    ∀ (wide narrow : Number) (most least : ℚ), wide.value? = some most → narrow.value? = some least →
      0 < least → least ≤ most → ∀ now, NoLessUrgent p (some wide) now (some narrow) now := by
  refine ⟨fun override given now later after => ?_, fun wide narrow most least wideExact narrowExact _ fewer now => ?_⟩
  · exact noLessUrgent finite given given fun i s s' describes describes' => rank_le_later describes describes' after
  · have below := (Policy.wellFormed_of_ofText read).blocked.ratio
    refine noLessUrgent finite ?_ ?_ fun i s s' describes describes' =>
      rank_le_override describes describes' wideExact narrowExact fewer below
    · rintro hours ⟨⟩
      exact ⟨most, wideExact⟩
    · rintro hours ⟨⟩
      exact ⟨least, narrowExact⟩

/-- Issues are no less urgent the next morning, nor with three hours and a half instead of a day. -/
theorem march_grows_urgent : ∃ document, (Policy.ofText document).result = .ok newProject ∧
    newProject.HasFiniteHours ∧
    NoLessUrgent newProject none noonOfTheTwentieth none ⟨⟨2026, 3, 21⟩, 8, 0, 0, 0, some 0⟩ ∧
    NoLessUrgent newProject (some (.int 24)) noonOfTheTwentieth (some (.float 3.5)) noonOfTheTwentieth := by
  obtain ⟨document, read⟩ : ∃ document, (Policy.ofText document).result = .ok newProject :=
    Policy.exists_document (Policy.wellFormed_starter _) (by decide +kernel) (by decide +kernel) (by decide +kernel)
  obtain ⟨later, narrower⟩ := urgency_monotone read newProject_hasFiniteHours
  refine ⟨document, read, newProject_hasFiniteHours, later none (by simp) _ _ (by decide), ?_⟩
  exact narrower (.int 24) (.float 3.5) 24 (7 / 2) rfl (by decide +kernel) (by norm_num) (by norm_num) _

end Triage.Sla
