import Triage.Proofs.Labels.Carried
import Triage.Proofs.Sync.Agreement

/-!
# One direction at a time

From labels to the board one round is enough. From the board to labels a round takes away the first status
label only, so it may take as many rounds as there are status labels before the label of the column comes
first: each round either ends or leaves one label less in front.
-/

namespace Triage

namespace Sync

/-- What is planned in a direction. -/
def plannedIn (p : Policy) (direction : Direction) (state : State) : List SyncAction :=
  actions p state.1 state.2 (some direction.name)

/-- The state once everything planned in a direction is carried out. -/
def roundIn (p : Policy) (direction : Direction) (state : State) : State :=
  let after := applyActions (state.1.labels, state.2) (plannedIn p direction state)
  (state.1.relabelled after.1, after.2)

/-- An issue once its status label has given way to that of a column. -/
def relabel (p : Policy) (column : Option String) (i : Issue) : Issue :=
  i.relabelled (replaced i.labels (p.statusLabel? i) (given p column))

section

variable {p : Policy} {i : Issue} {column : Option String} {short : String}

/-! ## From labels to the board -/

theorem plannedIn_labelToBoard (p : Policy) (i : Issue) (column : Option String) :
    plannedIn p .labelToBoard (i, column) = toBoard p i.number (p.statusLabel? i) column := by
  rw [← List.append_nil (toBoard ..)]
  rfl

theorem roundIn_labelToBoard (p : Policy) (i : Issue) (column : Option String) :
    roundIn p .labelToBoard (i, column) = (i, (asked p i).or column) := by
  rw [roundIn, plannedIn_labelToBoard, applyActions_toBoard]
  rfl

theorem plannedIn_roundIn_labelToBoard (p : Policy) (i : Issue) (column : Option String) :
    plannedIn p .labelToBoard (roundIn p .labelToBoard (i, column)) = [] := by
  rw [roundIn_labelToBoard, plannedIn_labelToBoard, toBoard_eq_nil_iff]
  intro name asks
  rw [asks, Option.some_or]

/-! ## From the board to labels -/

theorem plannedIn_boardToLabel (p : Policy) (i : Issue) (column : Option String) :
    plannedIn p .boardToLabel (i, column) = toLabel p i.number (p.statusLabel? i) column := by
  rfl

theorem roundIn_boardToLabel (p : Policy) (i : Issue) (column : Option String) :
    roundIn p .boardToLabel (i, column) = (relabel p column i, column) := by
  rw [roundIn, plannedIn_boardToLabel, applyActions_toLabel]
  rfl

/-- The column stays while the labels change. -/
theorem iterate_roundIn_boardToLabel (rounds : Nat) :
    (roundIn p .boardToLabel)^[rounds] (i, column) = ((relabel p column)^[rounds] i, column) := by
  induction rounds generalizing i with
  | zero => rfl
  | succ rounds ih => rw [Function.iterate_succ_apply, Function.iterate_succ_apply, roundIn_boardToLabel, ih]

/-- A column whose status is defined and not empty gives the label of that status. -/
theorem given_eq_fullLabel (filled : ∀ short ∈ p.labels.status.names, short ≠ "")
    (stands : column.bind p.statusOfColumn? = some short) : given p column = some (p.fullLabel .status short) := by
  obtain ⟨name, rfl, found⟩ := Option.bind_eq_some_iff.1 stands
  obtain ⟨_, _, _, status⟩ := Policy.exists_of_statusOfColumn? found
  have defined := Policy.defines_of_columnStatus? status
  have some : short ≠ "" := filled short (List.contains_iff_mem.1 defined)
  simp [given, Policy.labelOfColumn?, found, some]

/-- A label that a column gives is the full name of a defined status. -/
theorem exists_of_given {label : String} (gives : given p column = some label) :
    ∃ short, p.labels.status.defines short = true ∧ label = p.fullLabel .status short := by
  obtain ⟨name, rfl, found⟩ := Option.bind_eq_some_iff.1 gives
  obtain ⟨short, matched⟩ := Policy.matchLabel?_of_labelOfColumn? found
  obtain ⟨whole, defined⟩ := LabelGroup.match?_eq_some_iff.1 matched
  exact ⟨short, defined, whole⟩

/-- A round puts the status of the column in the place of the first status. -/
theorem mem_carriedNames_relabel (gives : given p column = some (p.fullLabel .status short))
    (defined : p.labels.status.defines short = true) (other : p.statusLabel? i ≠ some (p.fullLabel .status short))
    {name : String} : name ∈ p.carriedNames (relabel p column i) .status ↔
      name = short ∨ name ∈ (p.carriedNames i .status).tail := by
  have among : p.fullLabel .status name ∈ (relabel p column i).labels ↔ name = short ∨
      p.fullLabel .status name ∈ (p.statusLabel? i).elim i.labels i.labels.erase := by
    rw [relabel, gives, replaced, if_neg other]
    exact LabelSet.mem_insert.trans (or_congr_left p.labels.status.fullName_injective.eq_iff)
  have listed : p.labels.status.defines name = true ∧ p.fullLabel .status name ∈ i.labels ↔
      name ∈ p.carriedNames i .status := (Policy.mem_carriedNames (c := .status)).symm
  have distinct := p.nodup_carriedNames i .status
  have label := p.statusLabel?_eq_head? i
  rw [p.head?_carried] at label
  rw [Policy.mem_carriedNames, among, label]
  -- the label that gives way is the first one, if there is any
  cases names : p.carriedNames i .status with
  | nil =>
      rw [names] at listed
      simp only [List.head?_nil, Option.map_none, Option.elim_none, List.tail_nil, List.not_mem_nil, or_false]
      constructor
      · rintro ⟨known, same | present⟩
        · exact same
        · cases listed.1 ⟨known, present⟩
      · rintro rfl
        exact ⟨defined, .inl rfl⟩
  | cons first rest =>
      rw [names] at listed distinct
      simp only [List.head?_cons, Option.map_some, Option.elim_some, List.tail_cons, LabelSet.mem_erase]
      constructor
      · rintro ⟨known, same | ⟨present, apart⟩⟩
        · exact .inl same
        · obtain rfl | later := List.mem_cons.1 (listed.1 ⟨known, present⟩)
          · exact absurd rfl apart
          · exact .inr later
      · rintro (rfl | later)
        · exact ⟨defined, .inl rfl⟩
        · obtain ⟨known, present⟩ := listed.2 (List.mem_cons_of_mem first later)
          refine ⟨known, .inr ⟨present, fun same => ?_⟩⟩
          obtain rfl := p.labels.status.fullName_injective same
          exact (List.nodup_cons.1 distinct).1 later

/-- A round leaves one status less, unless the status of the column was not among the later ones. -/
theorem length_carriedNames_relabel (gives : given p column = some (p.fullLabel .status short))
    (defined : p.labels.status.defines short = true)
    (other : p.statusLabel? i ≠ some (p.fullLabel .status short)) :
    (p.carriedNames (relabel p column i) .status).length = ((p.carriedNames i .status).tail.insert short).length := by
  refine List.Perm.length_eq ((List.perm_ext_iff_of_nodup (p.nodup_carriedNames _ _) ?_).2 fun name => ?_)
  · exact (p.nodup_carriedNames i .status).tail.insert
  · rw [mem_carriedNames_relabel gives defined other, List.mem_insert_iff]

/-- Once the issue carries the status of the column, every round takes away one that comes before it. -/
theorem exists_rounds_of_carried (gives : given p column = some (p.fullLabel .status short))
    (defined : p.labels.status.defines short = true) (carried : short ∈ p.carriedNames i .status) :
    ∃ rounds < (p.carriedNames i .status).length,
      p.statusLabel? ((relabel p column)^[rounds] i) = some (p.fullLabel .status short) := by
  induction count : (p.carriedNames i .status).length generalizing i with
  | zero => simp [List.eq_nil_of_length_eq_zero count] at carried
  | succ fewer ih =>
      by_cases first : p.statusLabel? i = some (p.fullLabel .status short)
      · exact ⟨0, Nat.succ_pos _, first⟩
      · have after := length_carriedNames_relabel gives defined first
        have later : short ∈ (p.carriedNames i .status).tail := by
          have label := p.statusLabel?_eq_head? i
          rw [p.head?_carried] at label
          cases names : p.carriedNames i .status with
          | nil => simp [names] at carried
          | cons head rest =>
              rw [names] at carried label
              obtain rfl | among := List.mem_cons.1 carried
              · exact absurd label first
              · exact among
        rw [List.insert_of_mem later, List.length_tail, count] at after
        have present := (mem_carriedNames_relabel gives defined first).2 (.inl rfl)
        obtain ⟨rounds, few, done⟩ := ih present after
        exact ⟨rounds + 1, Nat.succ_lt_succ few, done⟩

/-- The status of the column comes first after as many rounds as there are statuses, or one if there is none. -/
theorem exists_rounds (gives : given p column = some (p.fullLabel .status short))
    (defined : p.labels.status.defines short = true) :
    ∃ rounds ≤ max 1 (p.carriedNames i .status).length,
      p.statusLabel? ((relabel p column)^[rounds] i) = some (p.fullLabel .status short) := by
  by_cases first : p.statusLabel? i = some (p.fullLabel .status short)
  · exact ⟨0, Nat.zero_le _, first⟩
  · have after := length_carriedNames_relabel gives defined first
    have grown : ((p.carriedNames i .status).tail.insert short).length ≤
        (p.carriedNames i .status).length - 1 + 1 := by
      rw [List.length_insert, List.length_tail]
      split
      · exact Nat.le_succ _
      · exact Nat.le_refl _
    have present := (mem_carriedNames_relabel gives defined first).2 (.inl rfl)
    obtain ⟨rounds, few, done⟩ := exists_rounds_of_carried gives defined present
    exact ⟨rounds + 1, by omega, done⟩

/-- From labels to the board one round is enough; from the board to labels as many as there are status labels
are enough, and one where there is none, and then the label is that of the column. -/
theorem oneWay_converges (filled : ∀ short ∈ p.labels.status.names, short ≠ "") (i : Issue)
    (column : Option String) :
    plannedIn p .labelToBoard (roundIn p .labelToBoard (i, column)) = [] ∧
      ∃ rounds ≤ max 1 (p.carried i .status).length, ∃ later,
        (roundIn p .boardToLabel)^[rounds] (i, column) = (later, column) ∧
        plannedIn p .boardToLabel (later, column) = [] ∧
        ∀ status, column.bind p.statusOfColumn? = some status →
          p.statusLabel? later = some (p.fullLabel .status status) := by
  refine ⟨plannedIn_roundIn_labelToBoard p i column, ?_⟩
  simp only [plannedIn_boardToLabel, iterate_roundIn_boardToLabel, toLabel_eq_nil_iff]
  cases gives : given p column with
  | none =>
      refine ⟨0, Nat.zero_le _, i, rfl, by simp, fun status stands => ?_⟩
      cases gives.symm.trans (given_eq_fullLabel filled stands)
  | some label =>
      obtain ⟨short, defined, rfl⟩ := exists_of_given gives
      obtain ⟨rounds, few, done⟩ := exists_rounds gives defined (i := i)
      refine ⟨rounds, ?_, _, rfl, fun wanted same => done.trans same, fun status stands => ?_⟩
      · rwa [Policy.carried, List.length_map]
      · rw [done, ← gives, given_eq_fullLabel filled stands]

end

/-! ## Several statuses -/

/-- An issue with three statuses, none of them that of the last column. -/
def scattered : Issue :=
  waiting.relabelled (.ofList ["status/testing", "type/bug", "status/backlog", "status/review"])

theorem scattered_converges :
    (∀ short ∈ starter.labels.status.names, short ≠ "") ∧
      plannedIn starter .labelToBoard (roundIn starter .labelToBoard (scattered, some "Done")) = [] ∧
      ∃ rounds ≤ 3, ∃ later,
        (roundIn starter .boardToLabel)^[rounds] (scattered, some "Done") = (later, some "Done") ∧
        plannedIn starter .boardToLabel (later, some "Done") = [] ∧
        starter.statusLabel? later = some "status/done" := by
  have filled : ∀ short ∈ starter.labels.status.names, short ≠ "" := by decide +kernel
  obtain ⟨once, rounds, few, later, reached, agreed, named⟩ := oneWay_converges filled scattered (some "Done")
  have three : (starter.carried scattered .status).length = 3 := by decide +kernel
  rw [three] at few
  exact ⟨filled, once, rounds, few, later, reached, agreed, named "done" (by decide +kernel)⟩

end Sync

end Triage
