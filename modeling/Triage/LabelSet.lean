/-!
# Sets of labels

The labels on an issue. Every name stands once; where an order is needed, names are sorted by the codes
of their characters.
-/

namespace Triage

structure LabelSet where
  names : List String
  nodup : names.Nodup

namespace LabelSet

def empty : LabelSet := ⟨[], List.nodup_nil⟩

instance : Membership String LabelSet := ⟨fun labels name => name ∈ labels.names⟩

instance (name : String) (labels : LabelSet) : Decidable (name ∈ labels) :=
  inferInstanceAs (Decidable (name ∈ labels.names))

def insert (labels : LabelSet) (name : String) : LabelSet :=
  if absent : name ∈ labels then labels
  else ⟨name :: labels.names, List.nodup_cons.2 ⟨absent, labels.nodup⟩⟩

def erase (labels : LabelSet) (name : String) : LabelSet :=
  ⟨labels.names.filter (· != name), labels.nodup.filter _⟩

def ofList : List String → LabelSet
  | [] => empty
  | name :: rest => (ofList rest).insert name

/-- The names in order. -/
def sorted (labels : LabelSet) : List String := labels.names.mergeSort fun a b => !decide (b < a)

@[simp] theorem mem_insert {labels : LabelSet} {name other : String} :
    other ∈ labels.insert name ↔ other = name ∨ other ∈ labels := by
  unfold insert
  split
  · rename_i present
    constructor
    · exact .inr
    · rintro (rfl | h)
      · exact present
      · exact h
  · exact List.mem_cons

@[simp] theorem mem_erase {labels : LabelSet} {name other : String} :
    other ∈ labels.erase name ↔ other ∈ labels ∧ other ≠ name := by
  show other ∈ labels.names.filter (· != name) ↔ _
  simp only [List.mem_filter, bne_iff_ne]
  exact Iff.rfl

@[simp] theorem mem_sorted {labels : LabelSet} {name : String} :
    name ∈ labels.sorted ↔ name ∈ labels := by
  show name ∈ labels.names.mergeSort _ ↔ name ∈ labels.names
  exact (List.mergeSort_perm _ _).mem_iff

end LabelSet

end Triage
