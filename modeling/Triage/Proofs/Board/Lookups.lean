import Triage.Policy.Starter
import Triage.Proofs.Board

/-!
# First columns

A column stands for a status under its short name, or else under its full name. The column of a status is the first
one that stands for it. On a board whose columns have names of their own, looking up the status of that column leads
back to the status, and looking up the column of a status leads back to the column unless another one comes before it.
-/

namespace Triage.Policy

variable {p : Policy} {column : Column} {status : String}

/-- What a column maps to is the short name of a defined status, or the full name of one without being a short name. -/
structure StandsFor (p : Policy) (column : Column) (status : String) : Prop where
  defined : p.labels.status.defines status = true
  mapped : column.mapsTo = status ∨
    p.labels.status.defines column.mapsTo = false ∧ column.mapsTo = p.fullLabel .status status

theorem columnStatus?_eq_some_iff : p.columnStatus? column = some status ↔ p.StandsFor column status := by
  unfold columnStatus?
  cases short : p.labels.status.defines column.mapsTo with
  | true =>
      rw [if_pos rfl, Option.some.injEq]
      constructor
      · rintro rfl
        exact ⟨short, .inl rfl⟩
      · rintro ⟨-, same | ⟨undefined, -⟩⟩
        · exact same
        · rw [short] at undefined
          cases undefined
  | false =>
      rw [if_neg Bool.false_ne_true, LabelGroup.match?_eq_some_iff]
      constructor
      · rintro ⟨full, defined⟩
        exact ⟨defined, .inr ⟨short, full⟩⟩
      · rintro ⟨defined, same | ⟨-, full⟩⟩
        · rw [same, defined] at short
          cases short
        · exact ⟨full, defined⟩

/-- A column of the board stands for a status, and none before it does. -/
def IsFirstFor (p : Policy) (column : Column) (status : String) : Prop :=
  ∃ before after, p.board.columns = before ++ column :: after ∧ p.StandsFor column status ∧
    ∀ other ∈ before, ¬ p.StandsFor other status

theorem columnOfStatus?_eq_some_iff : p.columnOfStatus? status = some column ↔ p.IsFirstFor column status := by
  have stands (other : Column) : (p.columnStatus? other == some status) = true ↔ p.StandsFor other status := by
    rw [beq_iff_eq, columnStatus?_eq_some_iff]
  rw [columnOfStatus?, List.find?_eq_some_iff_append]
  simp only [stands, Bool.not_eq_true', Bool.eq_false_iff, ne_eq]
  constructor
  · rintro ⟨this, before, after, whole, others⟩
    exact ⟨before, after, whole, this, others⟩
  · rintro ⟨before, after, whole, this, others⟩
    exact ⟨this, before, after, whole, others⟩

/-- Where some column stands for a status, there is a first one. -/
theorem exists_isFirstFor (member : column ∈ p.board.columns) (stands : p.StandsFor column status) :
    ∃ first, p.IsFirstFor first status := by
  cases found : p.columnOfStatus? status with
  | none =>
      have absent := List.find?_eq_none.1 found column member
      exact absurd (beq_iff_eq.2 (columnStatus?_eq_some_iff.2 stands)) absent
  | some first => exact ⟨first, columnOfStatus?_eq_some_iff.1 found⟩

/-- On a board whose columns have names of their own, a status is the one of its column. The column of a status that a
column has is the first one that stands for it, so it is the same column if no other one stands for that status. -/
theorem lookups_lead_back (names : (p.board.columns.map Column.name).Nodup) :
    (∀ status column, p.columnOfStatus? status = some column →
      p.labels.status.defines status = true ∧ p.statusOfColumn? column.name = some status) ∧
    ∀ name status, p.statusOfColumn? name = some status →
      ∃ column, p.columnOfStatus? status = some column ∧ p.IsFirstFor column status ∧
        ((∀ other ∈ p.board.columns, p.StandsFor other status → other.name = name) → column.name = name) := by
  constructor
  · intro status column found
    obtain ⟨member, stands⟩ := mem_of_columnOfStatus? found
    exact ⟨(columnStatus?_eq_some_iff.1 stands).defined, (statusOfColumn?_name names member).trans stands⟩
  · intro name status found
    obtain ⟨column, member, -, stands⟩ := exists_of_statusOfColumn? found
    obtain ⟨first, isFirst⟩ := exists_isFirstFor member (columnStatus?_eq_some_iff.1 stands)
    have placed := columnOfStatus?_eq_some_iff.2 isFirst
    refine ⟨first, placed, isFirst, fun only => ?_⟩
    obtain ⟨inside, stands'⟩ := mem_of_columnOfStatus? placed
    exact only first inside (columnStatus?_eq_some_iff.1 stands')

/-- A policy with a status whose short name is the full name of another one. -/
def doubling : Policy :=
  let definition : LabelDefinition := ⟨"ededed", "", none⟩
  let statuses : LabelGroup := ⟨"status/", .ofList [("done", definition), ("status/done", definition)]⟩
  let start := starter ⟨.library, none, none, none⟩
  { start with
    labels := { start.labels with status := statuses }
    board := ⟨"Board", [⟨"Shipped", "status/done"⟩, ⟨"Finished", "done"⟩, ⟨"Archive", "status/status/done"⟩]⟩ }

/-- The first column stands for the status of that short name, and so does the last one, under the full name. -/
theorem doubling_leads_back : (doubling.board.columns.map Column.name).Nodup ∧
    doubling.columnOfStatus? "status/done" = some ⟨"Shipped", "status/done"⟩ ∧
    doubling.statusOfColumn? "Shipped" = some "status/done" ∧
    doubling.statusOfColumn? "Archive" = some "status/done" ∧
    doubling.IsFirstFor ⟨"Shipped", "status/done"⟩ "status/done" ∧
    doubling.columnOfStatus? "done" = some ⟨"Finished", "done"⟩ := by
  have names : (doubling.board.columns.map Column.name).Nodup := by decide
  obtain ⟨back, forth⟩ := lookups_lead_back names
  have shipped : doubling.columnOfStatus? "status/done" = some ⟨"Shipped", "status/done"⟩ := by decide +kernel
  have archived : doubling.statusOfColumn? "Archive" = some "status/done" := by decide +kernel
  obtain ⟨first, placed, isFirst, -⟩ := forth "Archive" "status/done" archived
  obtain rfl := Option.some.inj (shipped.symm.trans placed)
  exact ⟨names, shipped, (back _ _ shipped).2, archived, isFirst, by decide +kernel⟩

end Triage.Policy
