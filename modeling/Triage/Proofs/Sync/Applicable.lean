import Triage.Proofs.Sync.Convergence

/-!
# Actions in the state they were planned from

Whatever is planned for an issue and its card can be carried out where they are, with one exception: a label
may be added that the issue carries already, behind the status label that counts. Where label and column agree
nothing is planned, unless the card is to follow the label and an earlier column has the same status.
-/

namespace Triage

namespace Sync

/-! ## The direction in force -/

/-- The direction that is named, if it is a known one, or that of the policy. -/
def inForce? (p : Policy) (direction : Option String) : Option Direction :=
  match direction.filter (· != "") with
  | none => some p.automation.sync.direction
  | some name => Direction.ofName? name

/-- The card follows the label. -/
def cardFollows (p : Policy) (direction : Option String) : Bool :=
  (inForce? p direction).any (· != .boardToLabel)

/-- The label follows the card. -/
def labelFollows (p : Policy) (direction : Option String) : Bool :=
  (inForce? p direction).any (· != .labelToBoard)

/-! ## What an action is about -/

/-- Taking the card of an issue from where it is, if anywhere, to the column that a label names. -/
def placing (i : Issue) (label : String) (column : Option String) (name : String) : SyncAction where
  step := if column.isNone then .createCard else .moveCard
  number := i.number
  reason := s!"label {label} places the issue in {name}"
  label := none
  fromColumn := column
  toColumn := some name

/-- Taking a label away that gives way to another one. -/
def removing (i : Issue) (label wanted : String) : SyncAction :=
  ⟨.removeLabel, i.number, s!"replaced by {wanted}", some label, none, none⟩

/-- Adding the label of the column that the card is in. -/
def adding (i : Issue) (column wanted : String) : SyncAction :=
  ⟨.addLabel, i.number, s!"card is in column {column}", some wanted, none, none⟩

/-- An action that can be carried out on an issue whose card is in a given column, if in any. -/
inductive Applicable (p : Policy) (i : Issue) : Option String → SyncAction → Prop where
  /-- Only an issue without a card gets one, in a column of the board. -/
  | create {reason : String} {place : Column} (configured : place ∈ p.board.columns) :
      Applicable p i none ⟨.createCard, i.number, reason, none, none, some place.name⟩
  /-- A card leaves the column that it is in for another one of the board. -/
  | move {reason current : String} {place : Column} (configured : place ∈ p.board.columns)
      (other : place.name ≠ current) :
      Applicable p i (some current) ⟨.moveCard, i.number, reason, none, some current, some place.name⟩
  /-- The issue carries the label that is taken away. -/
  | remove {column : Option String} {reason label : String} (carried : label ∈ i.labels) :
      Applicable p i column ⟨.removeLabel, i.number, reason, some label, none, none⟩
  /-- The label that is added is that of a defined status, and the issue does not carry it. -/
  | add {column : Option String} {reason short : String} (defined : p.labels.status.defines short = true)
      (free : p.fullLabel .status short ∉ i.labels) :
      Applicable p i column ⟨.addLabel, i.number, reason, some (p.fullLabel .status short), none, none⟩

/-- Adding a status label that the issue carries already, behind the first one. -/
inductive Redundant (p : Policy) (i : Issue) : SyncAction → Prop where
  | add {reason label : String} (behind : label ∈ (p.carried i .status).tail) :
      Redundant p i ⟨.addLabel, i.number, reason, some label, none, none⟩

section

variable {p : Policy} {i : Issue} {column : Option String} {a : SyncAction}

/-- The two sides are planned one after the other, each if the direction in force includes it. -/
theorem actions_eq (p : Policy) (i : Issue) (column direction : Option String) :
    actions p i column direction =
      (if cardFollows p direction = true then toBoard p i.number (p.statusLabel? i) column else []) ++
        (if labelFollows p direction = true then toLabel p i.number (p.statusLabel? i) column else []) := by
  unfold actions cardFollows labelFollows inForce?
  cases direction.filter (· != "") with
  | none => cases p.automation.sync.direction <;> rfl
  | some name =>
      cases known : Direction.ofName? name with
      | none => simp [known]
      | some direction => cases direction <;> simp [known, actionsIn]

/-- A card is placed where the label names a column and the card is not in it. -/
theorem mem_toBoard_iff : a ∈ toBoard p i.number (p.statusLabel? i) column ↔
    ∃ label place, p.statusLabel? i = some label ∧ p.columnOfLabel? label = some place ∧
      column ≠ some place.name ∧ a = placing i label column place.name := by
  unfold toBoard
  cases p.statusLabel? i with
  | none => simp
  | some label =>
      cases place : p.columnOfLabel? label with
      | none => simp [place]
      | some expected =>
          cases column with
          | none => simp [place, placing]
          | some current => by_cases same : current = expected.name <;> simp [place, same, placing]

/-- Where the column gives a label that does not come first, that label takes the place of the first one. -/
theorem mem_toLabel_iff : a ∈ toLabel p i.number (p.statusLabel? i) column ↔
    ∃ current wanted, column = some current ∧ p.labelOfColumn? current = some wanted ∧
      p.statusLabel? i ≠ some wanted ∧
      ((∃ label, p.statusLabel? i = some label ∧ a = removing i label wanted) ∨ a = adding i current wanted) := by
  unfold toLabel
  cases column with
  | none => simp
  | some current =>
      cases sign : p.labelOfColumn? current with
      | none => simp [sign]
      | some wanted =>
          by_cases same : p.statusLabel? i = some wanted
          · simp [sign, same]
          · cases first : p.statusLabel? i with
            | none => simp [sign, adding]
            | some label =>
                have other : label ≠ wanted := fun equal => same (equal ▸ first)
                simp [sign, other, removing, adding]

/-- All that can be planned. -/
theorem mem_actions_iff {direction : Option String} : a ∈ actions p i column direction ↔
    (cardFollows p direction = true ∧ ∃ label place, p.statusLabel? i = some label ∧
      p.columnOfLabel? label = some place ∧ column ≠ some place.name ∧ a = placing i label column place.name) ∨
    (labelFollows p direction = true ∧ ∃ current wanted, column = some current ∧
      p.labelOfColumn? current = some wanted ∧ p.statusLabel? i ≠ some wanted ∧
      ((∃ label, p.statusLabel? i = some label ∧ a = removing i label wanted) ∨ a = adding i current wanted)) := by
  rw [actions_eq, List.mem_append, List.mem_ite_nil_right, List.mem_ite_nil_right, mem_toBoard_iff, mem_toLabel_iff]

/-! ## Planned actions can be carried out -/

/-- A status label that an issue carries is the first one or comes behind it. -/
theorem mem_tail_carried_iff {label : String} : label ∈ (p.carried i .status).tail ↔
    label ∈ p.carried i .status ∧ p.statusLabel? i ≠ some label := by
  have distinct := p.nodup_carried i .status
  rw [p.statusLabel?_eq_head?]
  cases listed : p.carried i .status with
  | nil => simp
  | cons first rest =>
      rw [listed] at distinct
      simp only [List.tail_cons, List.mem_cons, List.head?_cons, ne_eq, Option.some.injEq]
      constructor
      · intro later
        refine ⟨.inr later, ?_⟩
        rintro rfl
        exact (List.nodup_cons.1 distinct).1 later
      · rintro ⟨rfl | later, other⟩
        · exact absurd rfl other
        · exact later

/-- The status label of an issue is among its labels. -/
theorem mem_labels_of_statusLabel? {label : String} (first : p.statusLabel? i = some label) :
    label ∈ i.labels :=
  (Policy.mem_categoryLabels.1 (List.mem_of_mem_head? first)).1

/-- A column that a label names belongs to the board. -/
theorem mem_columns_of_columnOfLabel? {label : String} {place : Column}
    (found : p.columnOfLabel? label = some place) : place ∈ p.board.columns := by
  obtain ⟨short, -, placed⟩ := Option.bind_eq_some_iff.1 found
  exact (Policy.mem_of_columnOfStatus? placed).1

theorem applicable_placing {label : String} {place : Column} (configured : place ∈ p.board.columns)
    (elsewhere : column ≠ some place.name) : Applicable p i column (placing i label column place.name) := by
  cases column with
  | none => exact .create configured
  | some current => exact .move configured fun same => elsewhere (congrArg some same.symm)

/-- Adding the label of a column is possible or redundant where that label does not come first. -/
theorem adding_cases {current wanted : String} (sign : p.labelOfColumn? current = some wanted)
    (other : p.statusLabel? i ≠ some wanted) :
    Applicable p i column (adding i current wanted) ∨ Redundant p i (adding i current wanted) := by
  have gives : given p (some current) = some wanted := sign
  obtain ⟨short, defined, rfl⟩ := exists_of_given gives
  by_cases carried : p.fullLabel .status short ∈ i.labels
  · right
    exact .add (mem_tail_carried_iff.2 ⟨Policy.mem_carried.2 ⟨carried, short, defined, rfl⟩, other⟩)
  · exact .inl (.add defined carried)

theorem Redundant.step (redundant : Redundant p i a) : a.step = .addLabel := by
  cases redundant
  rfl

/-- A redundant action cannot be carried out. -/
theorem Redundant.not_applicable (redundant : Redundant p i a) : ¬ Applicable p i column a := by
  cases redundant with
  | add behind =>
      intro applicable
      cases applicable with
      | add defined free => exact free (Policy.mem_carried.1 (List.mem_of_mem_tail behind)).1

/-- A redundant action is planned only where the label follows the card and that of the column comes behind
another one. -/
theorem behind_of_redundant {direction : Option String} (planned : a ∈ actions p i column direction)
    (redundant : Redundant p i a) : labelFollows p direction = true ∧
      ∃ wanted ∈ (p.carried i .status).tail, given p column = some wanted := by
  rcases mem_actions_iff.1 planned with
    ⟨-, label, place, -, -, -, rfl⟩ | ⟨follows, current, wanted, rfl, sign, -, ⟨label, -, rfl⟩ | rfl⟩
  · have step := redundant.step
    cases column <;> cases step
  · cases redundant.step
  · cases redundant with
    | add behind => exact ⟨follows, wanted, behind, sign⟩

/-- Every planned action can be carried out where the issue and its card are, unless it adds a status label
that the issue carries already; and all of them can unless the label follows the card and that of the column
comes behind another one. -/
theorem actions_applicable (p : Policy) (i : Issue) (column direction : Option String) :
    (∀ a ∈ actions p i column direction, Applicable p i column a ∨ Redundant p i a) ∧
      ((∀ a ∈ actions p i column direction, Applicable p i column a) ↔
        ¬ (labelFollows p direction = true ∧
          ∃ wanted ∈ (p.carried i .status).tail, given p column = some wanted)) := by
  have each : ∀ a ∈ actions p i column direction, Applicable p i column a ∨ Redundant p i a := by
    intro a member
    rcases mem_actions_iff.1 member with
      ⟨-, label, place, -, found, elsewhere, rfl⟩ | ⟨-, current, wanted, -, sign, other, planned⟩
    · exact .inl (applicable_placing (mem_columns_of_columnOfLabel? found) elsewhere)
    · rcases planned with ⟨label, first, rfl⟩ | rfl
      · exact .inl (.remove (mem_labels_of_statusLabel? first))
      · exact adding_cases sign other
  refine ⟨each, ?_, ?_⟩
  · rintro all ⟨follows, wanted, behind, gives⟩
    obtain ⟨current, rfl, sign⟩ := Option.bind_eq_some_iff.1 gives
    have other := (mem_tail_carried_iff.1 behind).2
    have planned : adding i current wanted ∈ actions p i (some current) direction :=
      mem_actions_iff.2 (.inr ⟨follows, current, wanted, rfl, sign, other, .inr rfl⟩)
    exact (Redundant.add behind).not_applicable (all _ planned)
  · intro clear a planned
    rcases each a planned with applicable | redundant
    · exact applicable
    · exact absurd (behind_of_redundant planned redundant) clear

end

/-- An issue whose first status label is that of the first column, and that carries that of the last one. -/
def halfDone : Issue := waiting.relabelled (.ofList ["status/done", "type/bug", "status/backlog"])

/-- A valid policy and a column of its board are not enough for all that is planned to be possible. -/
theorem label_added_again : ¬ ∀ (p : Policy) (i : Issue) (column : Option String) (direction : Direction),
    p.audit.valid = true → ∀ a ∈ actions p i column (some direction.name), Applicable p i column a := by
  intro possible
  have valid : starter.audit.valid = true := by decide +kernel
  have behind : "status/done" ∈ (starter.carried halfDone .status).tail := by decide +kernel
  have sign : starter.labelOfColumn? "Done" = some "status/done" := by decide +kernel
  have planned : adding halfDone "Done" "status/done" ∈
      actions starter halfDone (some "Done") (some Direction.boardToLabel.name) :=
    mem_actions_iff.2 (.inr ⟨by decide, _, _, rfl, sign, (mem_tail_carried_iff.1 behind).2, .inr rfl⟩)
  exact (Redundant.add behind).not_applicable (possible starter halfDone (some "Done") .boardToLabel valid _ planned)

/-! ## In agreement -/

/-- The column with a name stands for a status, and the issue has the label of that status. -/
structure Agree (p : Policy) (i : Issue) (name status : String) : Prop where
  column : p.statusOfColumn? name = some status
  label : p.statusLabel? i = some (p.fullLabel .status status)

section

variable {p : Policy} {i : Issue} {name status : String}

/-- The label of a defined status names the first column of that status; an empty status has no column. -/
theorem columnOfLabel?_fullLabel (defined : p.labels.status.defines status = true) :
    p.columnOfLabel? (p.fullLabel .status status) = if status = "" then none else p.columnOfStatus? status := by
  have known : p.matchLabel? .status (p.fullLabel .status status) = some status :=
    LabelGroup.match?_fullName defined
  rw [Policy.columnOfLabel?, known]
  by_cases empty : status = "" <;> simp [empty, Option.filter]

/-- A status that some column stands for has a first column. -/
theorem exists_columnOfStatus? {place : Column} (member : place ∈ p.board.columns)
    (stands : p.columnStatus? place = some status) : ∃ first, p.columnOfStatus? status = some first := by
  rw [← Option.isSome_iff_exists, Policy.columnOfStatus?, List.find?_isSome]
  exact ⟨place, member, by simp [stands]⟩

/-- What an agreed column gives is the label that the issue has. -/
theorem toLabel_of_agree (agree : Agree p i name status) {number : Int} :
    toLabel p number (p.statusLabel? i) (some name) = [] := by
  rw [toLabel_eq_nil_iff]
  intro wanted gives
  change (p.labelOfColumn? name) = some wanted at gives
  obtain ⟨short, known, rfl⟩ := Option.map_eq_some_iff.1 gives
  obtain ⟨same, -⟩ := Option.filter_eq_some_iff.1 known
  obtain rfl := Option.some.inj (agree.column.symm.trans same)
  exact agree.label

/-- Where label and column agree nothing is planned, unless the card follows the label and the first column of
its status has another name; then the card is moved there, and that is all. -/
theorem actions_of_agree (agree : Agree p i name status) (direction : Option String) :
    ∃ first, p.columnOfStatus? status = some first ∧ actions p i (some name) direction =
      if cardFollows p direction = true ∧ status ≠ "" ∧ first.name ≠ name
      then [placing i (p.fullLabel .status status) (some name) first.name] else [] := by
  obtain ⟨place, member, -, stands⟩ := Policy.exists_of_statusOfColumn? agree.column
  obtain ⟨first, found⟩ := exists_columnOfStatus? member stands
  have named := columnOfLabel?_fullLabel (Policy.defines_of_columnStatus? stands)
  refine ⟨first, found, ?_⟩
  rw [actions_eq, toLabel_of_agree agree, ite_self, List.append_nil, agree.label]
  by_cases follows : cardFollows p direction = true
  · by_cases empty : status = ""
    · rw [if_pos empty] at named
      have stays : ¬ (cardFollows p direction = true ∧ status ≠ "" ∧ first.name ≠ name) := fun h => h.2.1 empty
      rw [if_pos follows, if_neg stays, toBoard, named]
    · rw [if_neg empty, found] at named
      by_cases same : name = first.name
      · simp [toBoard, named, same]
      · have apart : first.name ≠ name := fun equal => same equal.symm
        simp [toBoard, named, same, apart, follows, empty, placing]
  · simp [follows]

end

/-- The starter policy with a second column for what waits. -/
def iceboxed : Policy :=
  { starter with board.columns := starter.board.columns ++ [⟨"Icebox", "backlog"⟩] }

theorem agree_waiting : Agree iceboxed waiting "Icebox" "backlog" where
  column := by decide +kernel
  label := by decide +kernel

theorem waiting_leaves_icebox : Agree iceboxed waiting "Icebox" "backlog" ∧
    actions iceboxed waiting (some "Icebox") (some Direction.boardToLabel.name) = [] ∧
    (actions iceboxed waiting (some "Icebox") none).map SyncAction.toColumn = [some "Backlog"] := by
  obtain ⟨first, found, left⟩ := actions_of_agree agree_waiting (some Direction.boardToLabel.name)
  obtain ⟨again, same, moved⟩ := actions_of_agree agree_waiting none
  have backlog : iceboxed.columnOfStatus? "backlog" = some ⟨"Backlog", "backlog"⟩ := by decide +kernel
  obtain rfl := Option.some.inj (same.symm.trans backlog)
  refine ⟨agree_waiting, ?_, ?_⟩
  · rw [left, if_neg]
    rintro ⟨follows, -⟩
    revert follows
    decide
  · rw [moved, if_pos]
    · rfl
    · decide +kernel

/-- A valid policy, a column of its board and an agreed label are not enough for a card to stay. -/
theorem agreed_card_moves : ¬ ∀ (p : Policy) (i : Issue) (name status : String) (direction : Direction),
    p.audit.valid = true → name ∈ p.board.columns.map Column.name → Agree p i name status →
    actions p i (some name) (some direction.name) = [] := by
  intro stays
  have valid : iceboxed.audit.valid = true := by decide +kernel
  have configured : "Icebox" ∈ iceboxed.board.columns.map Column.name := by decide
  have planned := stays iceboxed waiting "Icebox" "backlog" .labelToBoard valid configured agree_waiting
  revert planned
  decide +kernel

end Sync

end Triage
