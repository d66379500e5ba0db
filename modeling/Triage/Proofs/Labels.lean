import Triage.Sync

/-!
# Labels of an issue

A full name belongs to a category exactly when it is the lead followed by a defined short name. The
labels of a category on an issue are those of its labels that belong to the category, each once.
-/

namespace Triage

/-- An issue with other labels. -/
def Issue.relabelled (i : Issue) (labels : LabelSet) : Issue := { i with labels }

namespace LabelGroup

theorem split?_fullName {g : LabelGroup} {short : String} (defined : g.defines short = true) :
    g.split? (g.fullName short) = some short := by
  by_cases bare : g.lead = ""
  · simp [split?, fullName, bare, defined]
  · simp [split?, fullName, bare, Text.after?_append]

/-- A defined label is known by its full name. -/
theorem match?_fullName {g : LabelGroup} {short : String} (defined : g.defines short = true) :
    g.match? (g.fullName short) = some short := by
  simp [match?, split?_fullName defined, defined]

theorem eq_fullName_of_split? {g : LabelGroup} {full short : String} (h : g.split? full = some short) :
    full = g.fullName short := by
  by_cases bare : g.lead = ""
  · by_cases defined : g.defines full = true
    · simp_all [split?, fullName]
    · simp_all [split?]
  · simp only [split?, bare, ite_false] at h
    exact Text.eq_append_of_after? h

/-- A full name that belongs to a category is the lead with a defined short name. -/
theorem match?_eq_some_iff {g : LabelGroup} {full short : String} :
    g.match? full = some short ↔ full = g.fullName short ∧ g.defines short = true := by
  constructor
  · intro h
    obtain ⟨split, defined⟩ := Option.filter_eq_some_iff.1 h
    exact ⟨eq_fullName_of_split? split, defined⟩
  · rintro ⟨rfl, defined⟩
    exact match?_fullName defined

theorem fullName_injective (g : LabelGroup) : Function.Injective g.fullName := by
  intro first second h
  exact String.append_right_inj g.lead |>.1 h

end LabelGroup

namespace Policy

theorem mem_categoryLabels {p : Policy} {i : Issue} {c : Category} {label : String} :
    label ∈ p.categoryLabels i c ↔ label ∈ i.labels ∧ ∃ short, p.matchLabel? c label = some short := by
  simp only [categoryLabels, Order.sort, List.mem_map, List.mem_mergeSort, List.mem_filterMap,
    Option.map_eq_some_iff]
  constructor
  · rintro ⟨_, ⟨other, carried, short, matched, rfl⟩, rfl⟩
    exact ⟨carried, short, matched⟩
  · rintro ⟨carried, short, matched⟩
    exact ⟨_, ⟨label, carried, short, matched, rfl⟩, rfl⟩

/-- No label of a category is listed twice. -/
theorem nodup_categoryLabels (p : Policy) (i : Issue) (c : Category) : (p.categoryLabels i c).Nodup := by
  have unsorted : ∀ names : List String,
      (names.filterMap fun label => ((p.group c).match? label).map fun short =>
        ((p.group c).labels.position short, label)).map Prod.snd =
      names.filter fun label => ((p.group c).match? label).isSome := by
    intro names
    induction names with
    | nil => rfl
    | cons label rest ih =>
      cases matched : (p.group c).match? label with
      | none => simp [matched, ih]
      | some short => simp [matched, ih]
  refine ((List.mergeSort_perm _ _).map Prod.snd).nodup_iff.2 ?_
  rw [unsorted]
  exact i.labels.nodup.filter _

/-- The only label of a category on an issue is all that the category lists. -/
theorem categoryLabels_eq_singleton {p : Policy} {i : Issue} {c : Category} {label : String}
    (only : ∀ other, other ∈ p.categoryLabels i c ↔ other = label) : p.categoryLabels i c = [label] := by
  have unique := p.nodup_categoryLabels i c
  cases listed : p.categoryLabels i c with
  | nil => simpa [listed] using only label
  | cons first rest =>
    rw [listed] at only unique
    have head : first = label := (only first).1 List.mem_cons_self
    have tail : rest = [] := by
      refine List.eq_nil_iff_forall_not_mem.2 fun other member => ?_
      have same : other = label := (only other).1 (List.mem_cons_of_mem first member)
      exact (List.nodup_cons.1 unique).1 (head ▸ same ▸ member)
    rw [head, tail]

theorem statusLabel?_eq_some_iff {p : Policy} {i : Issue} {label : String}
    (single : (p.categoryLabels i .status).length ≤ 1) :
    p.statusLabel? i = some label ↔ label ∈ p.categoryLabels i .status := by
  unfold statusLabel?
  match p.categoryLabels i .status, single with
  | [], _ => simp
  | [only], _ => simp [eq_comm]

end Policy

end Triage
