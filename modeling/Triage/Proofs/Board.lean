import Mathlib.Data.List.Nodup
import Triage.Proofs.Labels

/-!
# Columns and statuses

On a board whose columns have names of their own, and where no status has two columns, looking up the
column of a label and looking up the label of a column undo each other.
-/

namespace Triage

namespace Policy

/-- Columns have names of their own, and no status has two of them. -/
structure OneColumnEach (p : Policy) : Prop where
  names : (p.board.columns.map Column.name).Nodup
  statuses : ∀ first ∈ p.board.columns, ∀ second ∈ p.board.columns, ∀ status,
    p.columnStatus? first = some status → p.columnStatus? second = some status → first = second

/-- A column only stands for a status that is defined. -/
theorem defines_of_columnStatus? {p : Policy} {column : Column} {status : String}
    (stands : p.columnStatus? column = some status) : p.labels.status.defines status = true := by
  unfold columnStatus? at stands
  split at stands
  · rename_i defined
    cases stands
    exact defined
  · exact (LabelGroup.match?_eq_some_iff.1 stands).2

theorem mem_of_columnOfStatus? {p : Policy} {status : String} {column : Column}
    (found : p.columnOfStatus? status = some column) :
    column ∈ p.board.columns ∧ p.columnStatus? column = some status := by
  refine ⟨List.mem_of_find?_eq_some found, ?_⟩
  simpa using List.find?_some found

theorem exists_of_statusOfColumn? {p : Policy} {name status : String}
    (found : p.statusOfColumn? name = some status) :
    ∃ column ∈ p.board.columns, column.name = name ∧ p.columnStatus? column = some status := by
  obtain ⟨column, first, stands⟩ := Option.bind_eq_some_iff.1 found
  refine ⟨column, List.mem_of_find?_eq_some first, ?_, stands⟩
  simpa using List.find?_some first

/-- A column is found again under its name. -/
theorem statusOfColumn?_name {p : Policy} (names : (p.board.columns.map Column.name).Nodup) {column : Column}
    (member : column ∈ p.board.columns) : p.statusOfColumn? column.name = p.columnStatus? column := by
  cases first : p.board.columns.find? (·.name == column.name) with
  | none =>
      have absent := List.find?_eq_none.1 first column member
      simp at absent
  | some other =>
      have same : other = column := by
        refine List.inj_on_of_nodup_map names (List.mem_of_find?_eq_some first) member ?_
        simpa using List.find?_some first
      simp [statusOfColumn?, first, same]

/-- A column is found again under its status. -/
theorem columnOfStatus?_status {p : Policy} (each : p.OneColumnEach) {column : Column} {status : String}
    (member : column ∈ p.board.columns) (stands : p.columnStatus? column = some status) :
    p.columnOfStatus? status = some column := by
  cases found : p.columnOfStatus? status with
  | none =>
      have absent := List.find?_eq_none.1 found column member
      simp [stands] at absent
  | some other =>
      obtain ⟨present, same⟩ := mem_of_columnOfStatus? found
      rw [each.statuses other present column member status same stands]

/-! ## Labels and columns -/

/-- The label of the column that a label names is that label. -/
theorem labelOfColumn?_of_columnOfLabel? {p : Policy} (names : (p.board.columns.map Column.name).Nodup)
    {label : String} {column : Column} (found : p.columnOfLabel? label = some column) :
    p.labelOfColumn? column.name = some label := by
  obtain ⟨short, matched, placed⟩ := Option.bind_eq_some_iff.1 found
  obtain ⟨known, filled⟩ := Option.filter_eq_some_iff.1 matched
  obtain ⟨member, stands⟩ := mem_of_columnOfStatus? placed
  have whole : label = p.fullLabel .status short := (LabelGroup.match?_eq_some_iff.1 known).1
  rw [labelOfColumn?, statusOfColumn?_name names member, stands, whole]
  simp [Option.filter, filled]

/-- A label that a column gives belongs to its category. -/
theorem matchLabel?_of_labelOfColumn? {p : Policy} {name label : String}
    (found : p.labelOfColumn? name = some label) : ∃ short, p.matchLabel? .status label = some short := by
  obtain ⟨short, matched, rfl⟩ := Option.map_eq_some_iff.1 found
  obtain ⟨_, _, _, stands⟩ := exists_of_statusOfColumn? (Option.filter_eq_some_iff.1 matched).1
  exact ⟨short, LabelGroup.match?_fullName (defines_of_columnStatus? stands)⟩

/-- The column of the label that a column gives is that column. -/
theorem columnOfLabel?_of_labelOfColumn? {p : Policy} (each : p.OneColumnEach) {name label : String}
    (found : p.labelOfColumn? name = some label) :
    ∃ column, p.columnOfLabel? label = some column ∧ column.name = name := by
  obtain ⟨short, matched, rfl⟩ := Option.map_eq_some_iff.1 found
  obtain ⟨known, filled⟩ := Option.filter_eq_some_iff.1 matched
  obtain ⟨column, member, named, stands⟩ := exists_of_statusOfColumn? known
  refine ⟨column, ?_, named⟩
  have split : p.matchLabel? .status (p.fullLabel .status short) = some short :=
    LabelGroup.match?_fullName (defines_of_columnStatus? stands)
  rw [columnOfLabel?, split]
  simp [Option.filter, filled, columnOfStatus?_status each member stands]

end Policy

end Triage
