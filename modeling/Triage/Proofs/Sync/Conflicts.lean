import Triage.Proofs.Labels.Readers

/-!
# Conflicts that are resolved

Where no label is both a status and a priority, taking away the labels that a way of resolving names leaves one
label of each of the two categories, if there was any, and touches no other label. After that nothing is left
to resolve, in whatever way.
-/

namespace Triage

namespace Sync

/-- No full name belongs to a status and to a priority. -/
def Apart (p : Policy) : Prop :=
  ∀ status ∈ p.labels.status.names, ∀ priority ∈ p.labels.priority.names,
    p.fullLabel .status status ≠ p.fullLabel .priority priority

instance (p : Policy) : Decidable (Apart p) :=
  inferInstanceAs (Decidable (∀ status ∈ p.labels.status.names, ∀ priority ∈ p.labels.priority.names,
    p.fullLabel .status status ≠ p.fullLabel .priority priority))

/-- What an issue is like once its conflicts are resolved in a given way. -/
structure Resolved (p : Policy) (r : Resolution) (before after : Issue) : Prop where
  /-- With the first kept, a category that had labels has the one defined first. -/
  first : r = .keepFirst → ∀ c ∈ exclusive, p.carried after c = (p.carried before c).head?.toList
  /-- With the last kept, a category that had labels has the one defined last. -/
  last : r = .keepLast → ∀ c ∈ exclusive, p.carried after c = (p.carried before c).getLast?.toList
  /-- Labels of neither category stay. -/
  others : ∀ label ∈ before.labels, (∀ c ∈ exclusive, label ∉ p.carried before c) → label ∈ after.labels
  /-- No label is added. -/
  subset : ∀ label ∈ after.labels, label ∈ before.labels
  settled : conflicts p after = []
  /-- Nothing is left to resolve in the way of the policy or in any other. -/
  idle : resolve p after none = .ok [] ∧ ∀ other : Resolution, resolve p after (some other.name) = .ok []
  /-- With the first kept, all that read one label of a category read the same as before. -/
  priority : r = .keepFirst → (p.priorityLabel after).result = (p.priorityLabel before).result
  status : r = .keepFirst → p.statusLabel? after = p.statusLabel? before

/-! ## Carrying removals out -/

/-- A removal leaves the card where it is and takes away the label that it names. -/
theorem applyAction_of_removal {a : SyncAction} (removal : a.step = .removeLabel) (labels : LabelSet)
    (column : Option String) : ∃ left, applyAction (labels, column) a = (left, column) ∧
      ∀ label, label ∈ left ↔ label ∈ labels ∧ a.label ≠ some label := by
  cases named : a.label with
  | none => exact ⟨labels, by simp [applyAction, removal, named], by simp⟩
  | some old =>
      refine ⟨labels.erase old, by simp [applyAction, removal, named], fun label => ?_⟩
      rw [LabelSet.mem_erase, ne_comm]
      simp

/-- Removals leave the card where it is and take away the labels that they name. -/
theorem applyActions_of_removals {plan : List SyncAction} (removals : ∀ a ∈ plan, a.step = .removeLabel)
    (labels : LabelSet) (column : Option String) : ∃ left, applyActions (labels, column) plan = (left, column) ∧
      ∀ label, label ∈ left ↔ label ∈ labels ∧ ∀ a ∈ plan, a.label ≠ some label := by
  induction plan generalizing labels with
  | nil => exact ⟨labels, rfl, by simp⟩
  | cons a rest ih =>
      obtain ⟨removal, later⟩ := List.forall_mem_cons.1 removals
      obtain ⟨once, step, kept⟩ := applyAction_of_removal removal labels column
      obtain ⟨left, run, remaining⟩ := ih later once
      refine ⟨left, ?_, fun label => ?_⟩
      · rw [← run, ← step]
        rfl
      · rw [remaining, kept, List.forall_mem_cons, and_assoc]

section

variable {p : Policy} {i : Issue} {r : Resolution} {c : Category} {label : String}

/-! ## The labels that are named -/

theorem mem_of_kept? {labels : List String} (kept : kept? r labels = some label) : label ∈ labels := by
  cases r with
  | keepFirst => exact List.mem_of_mem_head? kept
  | keepLast => exact List.mem_of_getLast? kept

theorem kept?_eq_none_iff {labels : List String} : kept? r labels = none ↔ labels = [] := by
  cases r with
  | keepFirst => exact List.head?_eq_none_iff
  | keepLast => exact List.getLast?_eq_none_iff

/-- All that is planned is taking labels away. -/
theorem step_of_mem_resolveBy {a : SyncAction} (member : a ∈ resolveBy p i r) : a.step = .removeLabel := by
  obtain ⟨c, -, named⟩ := List.mem_flatMap.1 member
  unfold resolveCategory at named
  cases kept : kept? r (p.categoryLabels i c) with
  | none => simp [kept] at named
  | some survivor =>
      simp only [kept, List.mem_map] at named
      obtain ⟨_, -, rfl⟩ := named
      rfl

/-- In a category the labels that are carried and not kept are named. -/
theorem exists_mem_resolveCategory_iff : (∃ a ∈ resolveCategory p i r c, a.label = some label) ↔
    label ∈ p.carried i c ∧ kept? r (p.carried i c) ≠ some label := by
  rw [resolveCategory, p.categoryLabels_eq_carried]
  cases kept : kept? r (p.carried i c) with
  | none => simp [kept?_eq_none_iff.1 kept]
  | some survivor => simp [ne_comm]

theorem exists_mem_resolveBy_iff : (∃ a ∈ resolveBy p i r, a.label = some label) ↔
    ∃ c ∈ exclusive, label ∈ p.carried i c ∧ kept? r (p.carried i c) ≠ some label := by
  constructor
  · rintro ⟨a, member, named⟩
    obtain ⟨c, among, member⟩ := List.mem_flatMap.1 member
    exact ⟨c, among, exists_mem_resolveCategory_iff.1 ⟨a, member, named⟩⟩
  · rintro ⟨c, among, removed⟩
    obtain ⟨a, member, named⟩ := exists_mem_resolveCategory_iff.2 removed
    exact ⟨a, List.mem_flatMap.2 ⟨c, among, member⟩, named⟩

/-! ## What is left -/

/-- Resolving in a known way takes the labels away that are named, and leaves the card. -/
theorem exists_resolved (p : Policy) (i : Issue) (r : Resolution) (column : Option String) :
    ∃ left, applyActions (i.labels, column) (resolveBy p i r) = (left, column) ∧
      ∀ label, label ∈ left ↔ label ∈ i.labels ∧
        ∀ c ∈ exclusive, label ∈ p.carried i c → kept? r (p.carried i c) = some label := by
  obtain ⟨left, run, remaining⟩ :=
    applyActions_of_removals (fun _ => step_of_mem_resolveBy (p := p) (i := i) (r := r)) i.labels column
  refine ⟨left, run, fun label => ?_⟩
  rw [remaining]
  refine and_congr_right fun _ => ?_
  constructor
  · intro kept c among carried
    by_contra removed
    obtain ⟨a, member, named⟩ := exists_mem_resolveBy_iff.2 ⟨c, among, carried, removed⟩
    exact kept a member named
  · intro kept a member named
    obtain ⟨c, among, carried, removed⟩ := exists_mem_resolveBy_iff.1 ⟨a, member, named⟩
    exact removed (kept c among carried)

/-- With fewer labels an issue carries those labels of a category that are left, in the same order. -/
theorem carried_relabelled {left : LabelSet} (fewer : ∀ label ∈ left, label ∈ i.labels) :
    p.carried (i.relabelled left) c = (p.carried i c).filter fun label => decide (label ∈ left) := by
  rw [Policy.carried, Policy.carried, Policy.carriedNames, Policy.carriedNames, List.filter_map, List.filter_filter]
  congr 1
  refine List.filter_congr fun short _ => ?_
  by_cases stays : p.fullLabel c short ∈ left
  · simp [Issue.relabelled, stays, fewer _ stays]
  · simp [Issue.relabelled, stays]

/-- Of a list without repeats only one element is a given element of the list. -/
theorem filter_eq_toList {labels : List String} {survivor : Option String} (distinct : labels.Nodup)
    (member : ∀ label, survivor = some label → label ∈ labels) :
    (labels.filter fun label => decide (survivor = some label)) = survivor.toList := by
  cases survivor with
  | none => simp
  | some kept =>
      have once : labels.count kept = 1 := List.count_eq_one_of_mem distinct (member kept rfl)
      have same : (fun label => decide (some kept = some label)) = (· == kept) := by
        funext label
        simp [eq_comm, beq_eq_decide]
      rw [same, List.filter_beq, once]
      rfl

/-- A label is not carried as a status and as a priority. -/
theorem Apart.unique (apart : Apart p) {d : Category} (first : c ∈ exclusive) (second : d ∈ exclusive)
    (here : label ∈ p.carried i c) (there : label ∈ p.carried i d) : c = d := by
  obtain ⟨-, short, defined, rfl⟩ := Policy.mem_carried.1 here
  obtain ⟨-, other, known, same⟩ := Policy.mem_carried.1 there
  have named : short ∈ (p.group c).names := List.contains_iff_mem.1 defined
  have again : other ∈ (p.group d).names := List.contains_iff_mem.1 known
  rcases List.mem_pair.1 first with rfl | rfl <;> rcases List.mem_pair.1 second with rfl | rfl
  · rfl
  · exact absurd same.symm (apart short named other again)
  · exact absurd same (apart other again short named)
  · rfl

/-- Of each exclusive category the label that is kept is left. -/
theorem carried_of_resolved (apart : Apart p) {left : LabelSet}
    (remaining : ∀ label, label ∈ left ↔ label ∈ i.labels ∧
      ∀ c ∈ exclusive, label ∈ p.carried i c → kept? r (p.carried i c) = some label)
    (among : c ∈ exclusive) : p.carried (i.relabelled left) c = (kept? r (p.carried i c)).toList := by
  rw [carried_relabelled fun label stays => ((remaining label).1 stays).1,
    ← filter_eq_toList (p.nodup_carried i c) fun _ => mem_of_kept?]
  refine List.filter_congr fun label carried => ?_
  have present := (Policy.mem_carried.1 carried).1
  simp only [remaining, present, true_and, decide_eq_decide]
  constructor
  · intro stays
    exact stays c among carried
  · intro kept d again there
    rwa [← apart.unique among again carried there]

/-! ## Nothing is left to resolve -/

theorem resolve_name (p : Policy) (i : Issue) (r : Resolution) :
    resolve p i (some r.name) = .ok (resolveBy p i r) := by
  cases r <;> rfl

/-- Where one label of a category is carried at most, none is named. -/
theorem resolveCategory_eq_nil {survivor : Option String} (listed : p.carried i c = survivor.toList) :
    resolveCategory p i r c = [] := by
  rw [resolveCategory, p.categoryLabels_eq_carried, listed]
  cases survivor with
  | none => cases r <;> rfl
  | some only => cases r <;> simp [kept?]

section

variable {survivor : Category → Option String} (listed : ∀ c ∈ exclusive, p.carried i c = (survivor c).toList)

include listed

theorem resolveBy_eq_nil (r : Resolution) : resolveBy p i r = [] :=
  List.flatMap_eq_nil_iff.2 fun c among => resolveCategory_eq_nil (listed c among)

theorem conflicts_eq_nil : conflicts p i = [] := by
  rw [p.conflicts_eq, List.map_eq_nil_iff, List.filter_eq_nil_iff]
  intro c among
  rw [listed c among, decide_eq_true_iff, not_lt]
  cases survivor c with
  | none => exact Nat.zero_le 1
  | some only => exact Nat.le_refl 1

end

/-- Issues that carry the same label of a category first have the same first name of it. -/
theorem head?_carriedNames_of_carried {j : Issue} (listed : p.carried j c = (p.carried i c).head?.toList) :
    (p.carriedNames j c).head? = (p.carriedNames i c).head? ∧ (p.carried j c).head? = (p.carried i c).head? := by
  have labels : (p.carried j c).head? = (p.carried i c).head? := by
    rw [listed]
    cases p.carried i c <;> rfl
  refine ⟨?_, labels⟩
  rw [p.head?_carried, p.head?_carried] at labels
  exact Option.map_injective (p.group c).fullName_injective labels

/-- Resolving conflicts leaves the first or the last label of each exclusive category and all other labels, and
then nothing is left to resolve. -/
theorem conflicts_resolved (apart : Apart p) (i : Issue) (r : Resolution) (column : Option String) :
    ∃ plan left, resolve p i (some r.name) = .ok plan ∧ (∀ a ∈ plan, a.step = .removeLabel) ∧
      applyActions (i.labels, column) plan = (left, column) ∧ Resolved p r i (i.relabelled left) := by
  obtain ⟨left, run, remaining⟩ := exists_resolved p i r column
  refine ⟨resolveBy p i r, left, resolve_name p i r, fun _ => step_of_mem_resolveBy, run, ?_⟩
  have listed : ∀ c ∈ exclusive, p.carried (i.relabelled left) c = (kept? r (p.carried i c)).toList :=
    fun c among => carried_of_resolved apart remaining among
  have heads : r = .keepFirst → ∀ c ∈ exclusive, p.carried (i.relabelled left) c = (p.carried i c).head?.toList := by
    rintro rfl
    exact listed
  exact {
    first := heads
    last := by
      rintro rfl
      exact listed
    others := by
      intro label present other
      exact (remaining label).2 ⟨present, fun c among carried => absurd carried (other c among)⟩
    subset := by
      intro label stays
      exact ((remaining label).1 stays).1
    settled := conflicts_eq_nil listed
    idle := by
      constructor
      · exact congrArg Except.ok (resolveBy_eq_nil listed _)
      · intro other
        rw [resolve_name, resolveBy_eq_nil listed]
    priority := by
      intro way
      obtain ⟨names, labels⟩ := head?_carriedNames_of_carried (heads way .priority (by decide))
      rw [p.result_priorityLabel, p.result_priorityLabel, List.headD_eq_head?_getD, List.headD_eq_head?_getD, names,
        labels]
    status := by
      intro way
      obtain ⟨-, labels⟩ := head?_carriedNames_of_carried (heads way .status (by decide))
      rw [p.statusLabel?_eq_head?, p.statusLabel?_eq_head?, labels] }

end

/-! ## Bare priorities -/

theorem crowded_is_resolved : Apart Policy.barePriorities ∧
    ∃ plan left, resolve Policy.barePriorities Policy.crowded (some "keep-first") = .ok plan ∧
      applyActions (Policy.crowded.labels, none) plan = (left, none) ∧
      Policy.barePriorities.carried (Policy.crowded.relabelled left) .status = ["status/backlog"] ∧
      Policy.barePriorities.carried (Policy.crowded.relabelled left) .priority = ["P1"] ∧
      "priority/P0" ∈ left ∧ "P3" ∉ left := by
  have apart : Apart Policy.barePriorities := by decide +kernel
  obtain ⟨plan, left, planned, -, run, resolved⟩ := conflicts_resolved apart Policy.crowded .keepFirst none
  have statuses : Policy.barePriorities.carried Policy.crowded .status = ["status/backlog", "status/done"] := by
    decide +kernel
  have priorities : Policy.barePriorities.carried Policy.crowded .priority = ["P1", "P3"] := by decide +kernel
  have first := resolved.first rfl
  refine ⟨apart, plan, left, planned, run, ?_, ?_, ?_, ?_⟩
  · rw [first .status (by decide), statuses]
    rfl
  · rw [first .priority (by decide), priorities]
    rfl
  · exact resolved.others "priority/P0" (by decide +kernel) (by decide +kernel)
  · intro stays
    have carried : "P3" ∈ Policy.barePriorities.carried (Policy.crowded.relabelled left) .priority :=
      Policy.mem_carried.2 ⟨stays, "P3", by decide +kernel, by decide +kernel⟩
    rw [first .priority (by decide), priorities] at carried
    revert carried
    decide

end Sync

end Triage
