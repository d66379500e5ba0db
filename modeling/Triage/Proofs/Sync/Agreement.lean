import Mathlib.Logic.Function.Iterate
import Triage.Proofs.Board
import Triage.Policy.Starter

/-!
# Agreement of labels and columns

A round plans in both directions and then carries everything out, so each direction plans from the state
before the round. Where the label names one column while the card is in another that gives a label of its
own, a round swaps the two: they disagree again, after any number of rounds. From every other state one
round is enough.
-/

namespace Triage

namespace Sync

/-- An issue and the column of its card. -/
abbrev State := Issue × Option String

/-- What is planned in both directions. -/
def planned (p : Policy) (state : State) : List SyncAction :=
  actions p state.1 state.2 (some Direction.both.name)

/-- The state once everything planned is carried out. -/
def round (p : Policy) (state : State) : State :=
  let after := applyActions (state.1.labels, state.2) (planned p state)
  (state.1.relabelled after.1, after.2)

/-- The issue has one status label at most. -/
def Single (p : Policy) (i : Issue) : Prop := (p.categoryLabels i .status).length ≤ 1

/-- The name of the column that the label of an issue names. -/
def asked (p : Policy) (i : Issue) : Option String :=
  (p.statusLabel? i).bind fun label => (p.columnOfLabel? label).map Column.name

/-- The label that a column gives. -/
def given (p : Policy) (column : Option String) : Option String := column.bind p.labelOfColumn?

/-- The labels once a wanted one, if any, has taken the place of the label that was there. -/
def replaced (labels : LabelSet) (label : Option String) : Option String → LabelSet
  | none => labels
  | some wanted => if label = some wanted then labels else (label.elim labels labels.erase).insert wanted

/-- The label names a column, and the card is in another one that gives a label. -/
def Contested (p : Policy) (state : State) : Prop :=
  ∃ expected current wanted, asked p state.1 = some expected ∧ state.2 = some current ∧
    given p state.2 = some wanted ∧ current ≠ expected

section

variable {p : Policy} {i : Issue} {column : Option String}

theorem planned_eq (p : Policy) (i : Issue) (column : Option String) :
    planned p (i, column) = toBoard p i.number (p.statusLabel? i) column
      ++ toLabel p i.number (p.statusLabel? i) column := by
  rfl

/-! ## Each direction by itself -/

theorem toBoard_eq_nil_iff {number : Int} :
    toBoard p number (p.statusLabel? i) column = [] ↔ ∀ name, asked p i = some name → column = some name := by
  unfold toBoard asked
  cases p.statusLabel? i with
  | none => simp
  | some label =>
      cases place : p.columnOfLabel? label with
      | none => simp [place]
      | some expected =>
          cases column with
          | none => simp [place]
          | some current => simp [place]

theorem toLabel_eq_nil_iff {number : Int} {label : Option String} :
    toLabel p number label column = [] ↔ ∀ wanted, given p column = some wanted → label = some wanted := by
  unfold toLabel given
  cases column with
  | none => simp
  | some current =>
      cases sign : p.labelOfColumn? current with
      | none => simp [sign]
      | some wanted => simp [sign]

/-- The card goes to the column that the label names. -/
theorem applyActions_toBoard {number : Int} {labels : LabelSet} :
    applyActions (labels, column) (toBoard p number (p.statusLabel? i) column) =
      (labels, (asked p i).or column) := by
  unfold toBoard asked
  cases p.statusLabel? i with
  | none => rfl
  | some label =>
      cases place : p.columnOfLabel? label with
      | none => simp [place, applyActions]
      | some expected =>
          cases column with
          | none => simp [place, applyActions, applyAction]
          | some current =>
              by_cases same : current = expected.name
              · simp [place, same, applyActions]
              · simp [place, same, applyActions, applyAction]

/-- The label of the column takes the place of the one that was there. -/
theorem applyActions_toLabel {number : Int} {labels : LabelSet} {label place : Option String} :
    applyActions (labels, place) (toLabel p number label column) =
      (replaced labels label (given p column), place) := by
  unfold toLabel given
  cases column with
  | none => rfl
  | some current =>
      cases sign : p.labelOfColumn? current with
      | none => simp [sign, applyActions, replaced]
      | some wanted =>
          by_cases same : label = some wanted
          · simp [sign, same, applyActions, replaced]
          · cases label with
            | none => simp [sign, applyActions, applyAction, replaced]
            | some old =>
                have other : old ≠ wanted := fun h => same (congrArg some h)
                simp [sign, other, applyActions, applyAction, replaced]

/-! ## A round -/

/-- A column gives the label that names it, and the other way round. -/
theorem given_eq_some_iff (each : p.OneColumnEach) (label name : String) :
    given p (some name) = some label ↔ (p.columnOfLabel? label).map Column.name = some name := by
  constructor
  · intro sign
    obtain ⟨column, found, named⟩ := Policy.columnOfLabel?_of_labelOfColumn? each sign
    rw [found, Option.map_some, named]
  · intro place
    obtain ⟨column, found, rfl⟩ := Option.map_eq_some_iff.1 place
    exact Policy.labelOfColumn?_of_columnOfLabel? each.names found

/-- The only status label of an issue gives way to the wanted one. -/
theorem categoryLabels_replaced (single : Single p i) {wanted short : String}
    (defined : p.matchLabel? .status wanted = some short) :
    p.categoryLabels (i.relabelled (replaced i.labels (p.statusLabel? i) (some wanted))) .status
      = [wanted] := by
  -- Any other status label would be the one that gives way.
  have only {other : String} (present : other ∈ i.labels) {name : String}
      (matched : p.matchLabel? .status other = some name) : p.statusLabel? i = some other :=
    (Policy.statusLabel?_eq_some_iff single).2 (Policy.mem_categoryLabels.2 ⟨present, name, matched⟩)
  refine Policy.categoryLabels_eq_singleton fun other => ?_
  rw [Policy.mem_categoryLabels]
  by_cases same : p.statusLabel? i = some wanted
  · rw [replaced, if_pos same]
    constructor
    · rintro ⟨present, name, matched⟩
      exact Option.some.inj ((only present matched).symm.trans same)
    · rintro rfl
      exact Policy.mem_categoryLabels.1 ((Policy.statusLabel?_eq_some_iff single).1 same)
  · rw [replaced, if_neg same]
    constructor
    · rintro ⟨present, name, matched⟩
      obtain equal | before := LabelSet.mem_insert.1 present
      · exact equal
      · cases first : p.statusLabel? i with
        | none =>
            rw [first] at before only
            cases only before matched
        | some old =>
            rw [first] at before only
            obtain ⟨kept, apart⟩ := LabelSet.mem_erase.1 before
            exact absurd (Option.some.inj (only kept matched)).symm apart
    · rintro rfl
      exact ⟨LabelSet.mem_insert.2 (.inl rfl), short, defined⟩

/-- A round takes the card to the column that the label names, and gives the issue the label of the column
in which the card was. -/
theorem round_eq (single : Single p i) (column : Option String) :
    ∃ later, round p (i, column) = (later, (asked p i).or column) ∧
      p.statusLabel? later = (given p column).or (p.statusLabel? i) ∧ Single p later := by
  refine ⟨i.relabelled (replaced i.labels (p.statusLabel? i) (given p column)), ?_, ?_⟩
  · simp only [round, planned_eq, applyActions, List.foldl_append]
    rw [← applyActions, ← applyActions, applyActions_toBoard, applyActions_toLabel]
  · cases sign : given p column with
    | none => exact ⟨rfl, single⟩
    | some wanted =>
        obtain ⟨current, -, found⟩ := Option.bind_eq_some_iff.1 sign
        obtain ⟨short, defined⟩ := Policy.matchLabel?_of_labelOfColumn? found
        have listed := categoryLabels_replaced single defined
        constructor
        · rw [Policy.statusLabel?, listed]
          rfl
        · rw [Single, listed]
          exact Nat.le_refl 1

theorem planned_eq_nil_iff :
    planned p (i, column) = [] ↔ (∀ name, asked p i = some name → column = some name) ∧
      ∀ wanted, given p column = some wanted → p.statusLabel? i = some wanted := by
  rw [planned_eq, List.append_eq_nil_iff, toBoard_eq_nil_iff, toLabel_eq_nil_iff]

theorem asked_eq_some_iff (each : p.OneColumnEach) {name : String} :
    asked p i = some name ↔ ∃ label, p.statusLabel? i = some label ∧ given p (some name) = some label := by
  simp only [asked, Option.bind_eq_some_iff, given_eq_some_iff each]

theorem planned_ne_nil_of_contested {state : State} (contested : Contested p state) :
    planned p state ≠ [] := by
  obtain ⟨expected, current, wanted, asks, stands, gives, apart⟩ := contested
  intro agreed
  have placed := (planned_eq_nil_iff.1 agreed).1 expected asks
  exact apart (Option.some.inj (stands.symm.trans placed))

/-- The two sides of a disagreement are swapped. -/
theorem contested_round (each : p.OneColumnEach) (single : Single p i)
    (contested : Contested p (i, column)) : Contested p (round p (i, column)) := by
  obtain ⟨expected, current, wanted, asks, stands, gives, apart⟩ := contested
  obtain ⟨later, carriedOut, labelled, -⟩ := round_eq single column
  obtain ⟨label, -, back⟩ := (asked_eq_some_iff each).1 asks
  change column = some current at stands
  change given p column = some wanted at gives
  rw [carriedOut, asks, Option.some_or]
  refine ⟨current, expected, label, ?_, rfl, back, apart.symm⟩
  rw [gives, Option.some_or] at labelled
  exact (asked_eq_some_iff each).2 ⟨wanted, labelled, stands ▸ gives⟩

/-- Without a disagreement both sides are content after a round. -/
theorem planned_round_of_not_contested (each : p.OneColumnEach) (single : Single p i)
    (uncontested : ¬ Contested p (i, column)) : planned p (round p (i, column)) = [] := by
  obtain ⟨later, carriedOut, labelled, -⟩ := round_eq single column
  rw [carriedOut, planned_eq_nil_iff]
  -- a column without a status leaves the label alone, any other one decides it
  cases gives : given p column with
  | none =>
      rw [gives, Option.none_or] at labelled
      have same : asked p later = asked p i := by rw [asked, asked, labelled]
      rw [same, labelled]
      cases asks : asked p i with
      | none => simp [gives]
      | some expected =>
          obtain ⟨label, first, back⟩ := (asked_eq_some_iff each).1 asks
          simp [first, back]
  | some wanted =>
      obtain ⟨current, rfl, found⟩ := Option.bind_eq_some_iff.1 gives
      rw [gives, Option.some_or] at labelled
      have back : asked p later = some current := (asked_eq_some_iff each).2 ⟨wanted, labelled, gives⟩
      have stays : (asked p i).or (some current) = some current := by
        cases asks : asked p i with
        | none => rfl
        | some expected =>
            by_contra moved
            refine uncontested ⟨expected, current, wanted, asks, rfl, gives, ?_⟩
            rintro rfl
            exact moved rfl
      rw [stays, back, labelled]
      exact ⟨fun _ same => same, fun _ same => gives.symm.trans same⟩

/-- A disagreement outlives any number of rounds. -/
theorem contested_rounds (each : p.OneColumnEach) (rounds : Nat) (single : Single p i)
    (contested : Contested p (i, column)) : Contested p ((round p)^[rounds] (i, column)) := by
  induction rounds generalizing i column with
  | zero => exact contested
  | succ rounds ih =>
      have swapped := contested_round each single contested
      obtain ⟨later, carriedOut, -, once⟩ := round_eq single column
      rw [carriedOut] at swapped
      rw [Function.iterate_succ_apply, carriedOut]
      exact ih once swapped

/-- One round brings label and column in line exactly where they do not contest each other; where they do,
no number of rounds does. -/
theorem planned_round_eq_nil_iff (each : p.OneColumnEach) (single : Single p i) :
    (planned p (round p (i, column)) = [] ↔ ¬ Contested p (i, column)) ∧
      (Contested p (i, column) → ∀ rounds, planned p ((round p)^[rounds] (i, column)) ≠ []) := by
  refine ⟨⟨?_, planned_round_of_not_contested each single⟩, ?_⟩
  · intro agreed contested
    exact planned_ne_nil_of_contested (contested_round each single contested) agreed
  · intro contested rounds
    exact planned_ne_nil_of_contested (contested_rounds each rounds single contested)

end

/-! ## The starter policy -/

/-- The starter policy of a backend project. -/
def starter : Policy := .starter ⟨.backend, none, none, none⟩

/-- An issue that waits in the backlog, by its label. -/
def waiting : Issue where
  number := 1
  title := .text "Crash on startup"
  body := .text ""
  labels := .ofList ["status/backlog", "type/bug"]
  createdAt := ⟨⟨2026, 3, 1⟩, 9, 0, 0, 0, some 0⟩
  updatedAt := ⟨⟨2026, 3, 1⟩, 9, 0, 0, 0, some 0⟩
  state := .text "open"

theorem starter_oneColumnEach : starter.OneColumnEach where
  names := by decide
  statuses := by
    intro first present second listed status stands same
    have only : ∀ a ∈ starter.board.columns, ∀ b ∈ starter.board.columns,
        starter.columnStatus? a = starter.columnStatus? b → a = b := by decide +kernel
    exact only first present second listed (stands.trans same.symm)

theorem single_waiting : Single starter waiting := by
  change _ ≤ 1
  decide +kernel

/-- The label says backlog, the card is in the last column. -/
theorem contested_waiting : Contested starter (waiting, some "Done") := by
  refine ⟨"Backlog", "Done", "status/done", ?_, rfl, ?_, by decide⟩
  · decide +kernel
  · decide +kernel

theorem starter_never_agrees :
    starter.OneColumnEach ∧ Single starter waiting ∧ Contested starter (waiting, some "Done") ∧
      ∀ rounds, planned starter ((round starter)^[rounds] (waiting, some "Done")) ≠ [] :=
  ⟨starter_oneColumnEach, single_waiting, contested_waiting,
    (planned_round_eq_nil_iff starter_oneColumnEach single_waiting).2 contested_waiting⟩

/-- One round is not always enough, not even for a valid policy and a column of its board. -/
theorem round_leaves_work :
    ¬ ∀ (p : Policy) (i : Issue) (column : Option String), p.audit.valid = true → p.OneColumnEach →
      Single p i → (∀ name, column = some name → name ∈ p.board.columns.map Column.name) →
      planned p (round p (i, column)) = [] := by
  intro settles
  have agreed := settles starter waiting (some "Done") (by decide +kernel) starter_oneColumnEach
    single_waiting (by rintro name ⟨rfl⟩; decide)
  exact planned_ne_nil_of_contested
    (contested_round starter_oneColumnEach single_waiting contested_waiting) agreed

end Sync

end Triage
