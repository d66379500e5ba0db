import Triage.Proofs.Plan

/-!
# Plans as partitions

A plan for labels puts the first label of every desired name into one of its three parts and leaves the order as
it was. Which part that is depends on the first label of the name on the tracker alone, and for each label to be
updated the plan says which fields differ.
-/

namespace Triage

namespace Plan

/-- The fields in which a label on the tracker differs from a desired one; no description counts as an empty
one. -/
def differing (spec : LabelSpec) (color : String) (description : Option String) : List LabelField :=
  [.color, .description].filter fun
    | .color => normalColor color != normalColor spec.color
    | .description => description.getD "" != spec.description

/-- An item is the first one of its name. -/
def IsFirst {α : Type} (name : α → String) (items : List α) (a : α) : Prop :=
  items.find? (fun b => name b == name a) = some a

instance {α : Type} [DecidableEq α] (name : α → String) (items : List α) (a : α) : Decidable (IsFirst name items a) :=
  inferInstanceAs (Decidable (_ = some a))

/-- A plan divides the first items of all desired names by what is on the tracker. -/
structure IsPartition (desired : List LabelSpec) (remote : List RemoteLabel) (plan : Plan LabelSpec) : Prop where
  /-- The parts keep the order of the desired labels. -/
  sublists : plan.created.Sublist desired ∧ plan.updated.Sublist desired ∧ plan.skipped.Sublist desired
  /-- No name comes twice, in one part or in two of them. -/
  disjoint : ((plan.created ++ plan.updated ++ plan.skipped).map LabelSpec.name).Nodup
  together : ∀ spec, spec ∈ plan.created ++ plan.updated ++ plan.skipped ↔ IsFirst LabelSpec.name desired spec
  created : ∀ spec, IsFirst LabelSpec.name desired spec →
    (spec ∈ plan.created ↔ ∀ label ∈ remote, label.name ≠ .text spec.name)
  updated : ∀ spec color description id, IsFirst LabelSpec.name desired spec →
    under spec.name remote = some (.typed spec.name color description id) →
      (spec ∈ plan.updated ↔ normalColor color ≠ normalColor spec.color ∨ description.getD "" ≠ spec.description)
  skipped : ∀ spec color description id, IsFirst LabelSpec.name desired spec →
    under spec.name remote = some (.typed spec.name color description id) →
      (spec ∈ plan.skipped ↔ normalColor color = normalColor spec.color ∧ description.getD "" = spec.description)
  /-- Changes are told for the updated labels and for no others, in their order. -/
  changed : plan.changes.map Prod.fst = plan.updated.map LabelSpec.name
  fields : ∀ spec ∈ plan.updated, ∀ color description id,
    under spec.name remote = some (.typed spec.name color description id) →
      (spec.name, differing spec color description) ∈ plan.changes

/-! ## First items -/

section

variable {α : Type} {name : α → String} {a : α}

theorem mem_firstOfEach_iff {seen : List String} {items : List α} :
    a ∈ firstOfEach name seen items ↔ name a ∉ seen ∧ IsFirst name items a := by
  induction items generalizing seen with
  | nil => simp [firstOfEach, IsFirst]
  | cons b rest ih =>
      rw [firstOfEach, IsFirst]
      by_cases same : name b = name a
      · rw [List.find?_cons_of_pos (by simp [same])]
        by_cases before : name b ∈ seen
        · simp [before, ih, ← same]
        · simp [before, ih, ← same, eq_comm]
      · rw [List.find?_cons_of_neg (by simp [same])]
        have other : a ≠ b := fun equal => same (equal ▸ rfl)
        by_cases before : name b ∈ seen
        · simp [before, ih, IsFirst]
        · simp [before, ih, other, Ne.symm same, IsFirst]

end

/-! ## Comparing with the tracker -/

section

variable {spec : LabelSpec} {remote : List RemoteLabel} {name color : String} {description : Option String}
  {id : Data}

theorem differing_eq_nil_iff : differing spec color description = [] ↔
    normalColor color = normalColor spec.color ∧ description.getD "" = spec.description := by
  simp [differing]

/-- No description on the tracker reads as an empty one. -/
theorem description_typed : (RemoteLabel.typed name color description id).description.orElse (.text "") =
    .text (description.getD "") := by
  cases description with
  | none => rfl
  | some text =>
      by_cases empty : text = ""
      · rw [empty]
        rfl
      · simp [RemoteLabel.typed, Data.orElse, Data.truthy, empty]

theorem compareLabel_typed : compareLabel spec (.typed name color description id) =
    .ok (if differing spec color description = [] then .same
      else .differs (differing spec color description)) := by
  rw [compareLabel, description_typed]
  by_cases sameColor : normalColor color = normalColor spec.color <;>
    by_cases sameText : description.getD "" = spec.description <;>
      simp [RemoteLabel.typed, remoteColor, differing, sameColor, sameText, beq_text_iff]

/-- A label is found missing where no label on the tracker has its name. -/
theorem findLabel_eq_missing_iff :
    findLabel remote spec = .ok .missing ↔ ∀ label ∈ remote, label.name ≠ .text spec.name := by
  rw [findLabel]
  cases first : remote.find? (·.name == .text spec.name) with
  | none =>
      have absent := List.find?_eq_none.1 first
      simp only [true_iff]
      intro label member named
      exact absent label member (beq_text_iff.2 named)
  | some existing =>
      simp only [compareLabel_ne_missing, false_iff]
      intro apart
      have named := List.find?_some first
      exact apart existing (List.mem_of_find?_eq_some first) (beq_text_iff.1 named)

/-- Otherwise it is compared with the first label of its name. -/
theorem findLabel_of_under (first : under spec.name remote = some (.typed name color description id)) :
    findLabel remote spec = .ok (if differing spec color description = [] then .same
      else .differs (differing spec color description)) := by
  rw [findLabel, ← under, first]
  exact compareLabel_typed

/-! ## Findings and parts -/

theorem mem_found_iff {desired : List LabelSpec} {found : List (LabelSpec × Finding)} {finding : Finding}
    (compared : labelFindings remote (firstOfEach LabelSpec.name [] desired) = .ok found) :
    (spec, finding) ∈ found ↔ IsFirst LabelSpec.name desired spec ∧ findLabel remote spec = .ok finding := by
  obtain ⟨items, each⟩ := of_labelFindings_eq_ok compared
  have first : spec ∈ found.map Prod.fst ↔ IsFirst LabelSpec.name desired spec := by
    rw [items, mem_firstOfEach_iff]
    simp
  constructor
  · intro member
    exact ⟨first.1 (List.mem_map_of_mem member), each _ member⟩
  · rintro ⟨among, known⟩
    obtain ⟨⟨_, other⟩, member, rfl⟩ := List.mem_map.1 (first.2 among)
    obtain rfl := Except.ok.inj ((each _ member).symm.trans known)
    exact member

end

section

variable {α : Type} {name : α → String} {found : List (α × Finding)} {a : α}

theorem mem_skipped_iff : a ∈ (ofFindings name found).skipped ↔ (a, .same) ∈ found := by
  simp [ofFindings, having]

theorem mem_changes_of_differs {fields : List LabelField} (differs : (a, .differs fields) ∈ found) :
    (name a, fields) ∈ (ofFindings name found).changes :=
  List.mem_filterMap.2 ⟨_, differs, rfl⟩

theorem map_fst_changes : (ofFindings name found).changes.map Prod.fst = (ofFindings name found).updated.map name := by
  induction found with
  | nil => rfl
  | cons entry rest ih =>
      obtain ⟨b, finding⟩ := entry
      simp only [ofFindings, having] at ih ⊢
      cases finding with
      | differs fields => exact congrArg (name b :: ·) ih
      | _ => exact ih

end

/-! ## Plans for labels -/

theorem isPartition_ofFindings {desired : List LabelSpec} {remote : List RemoteLabel}
    {found : List (LabelSpec × Finding)}
    (compared : labelFindings remote (firstOfEach LabelSpec.name [] desired) = .ok found) :
    IsPartition desired remote (ofFindings LabelSpec.name found) := by
  obtain ⟨items, each⟩ := of_labelFindings_eq_ok compared
  have whole := perm_ofFindings LabelSpec.name found
  have ordered : (found.map Prod.fst).Sublist desired := items ▸ firstOfEach_sublist [] desired
  exact {
    sublists := ⟨(created_sublist _ found).trans ordered, (updated_sublist _ found).trans ordered,
      (skipped_sublist _ found).trans ordered⟩
    disjoint := by
      rw [(whole.map LabelSpec.name).nodup_iff, items]
      exact nodup_firstOfEach LabelSpec.name [] desired
    together := by
      intro spec
      rw [whole.mem_iff, items, mem_firstOfEach_iff]
      simp
    created := by
      intro spec first
      rw [mem_created_iff, mem_found_iff compared, and_iff_right first, findLabel_eq_missing_iff]
    updated := by
      intro spec color description id first existing
      have finding := findLabel_of_under existing
      simp only [mem_updated_iff, mem_found_iff compared, first, true_and, finding]
      by_cases same : differing spec color description = []
      · simp [same, differing_eq_nil_iff.1 same]
      · simp only [same, if_false, Except.ok.injEq, Finding.differs.injEq, exists_eq', true_iff]
        rw [differing_eq_nil_iff, not_and_or] at same
        exact same
    skipped := by
      intro spec color description id first existing
      have finding := findLabel_of_under existing
      rw [mem_skipped_iff, mem_found_iff compared, and_iff_right first, finding, ← differing_eq_nil_iff]
      by_cases same : differing spec color description = [] <;> simp [same]
    changed := map_fst_changes
    fields := by
      intro spec updated color description id existing
      obtain ⟨fields, differs⟩ := mem_updated_iff.1 updated
      have finding := (each _ differs).symm.trans (findLabel_of_under existing)
      by_cases same : differing spec color description = []
      · rw [if_pos same] at finding
        cases finding
      · rw [if_neg same] at finding
        have told : fields = differing spec color description := Finding.differs.inj (Except.ok.inj finding)
        exact mem_changes_of_differs (told ▸ differs) }

/-- For labels on the tracker whose fields have the right types there is a plan, and it is a partition of the
first items of all desired names. -/
theorem ofLabels_divides (desired : List LabelSpec) {remote : List RemoteLabel}
    (typed : ∀ label ∈ remote, label.WellTyped) :
    ∃ plan, (ofLabels desired remote).result = .ok plan ∧ IsPartition desired remote plan := by
  obtain ⟨plan, planned⟩ := exists_result_ofLabels desired typed
  obtain ⟨-, found, compared, rfl⟩ := result_ofLabels_eq_ok_iff.1 planned
  exact ⟨_, planned, isPartition_ofFindings compared⟩

/-! ## A color and a description apart -/

/-- A label that is desired, the first one of its name. -/
def bug : LabelSpec := ⟨"type/bug", "type", "d73a4a", "Something is broken"⟩

/-- A desired label that is missing on the tracker. -/
def docs : LabelSpec := ⟨"type/docs", "type", "0075ca", "Documentation"⟩

/-- Labels on the tracker, the second of which differs in both fields. -/
def drifted : List RemoteLabel :=
  [.typed "type/test" " #1D76DB" none .null, .typed "type/bug" "#000000" none .null]

theorem wanted_is_divided : (∀ label ∈ drifted, label.WellTyped) ∧
    ∃ plan, (ofLabels wanted drifted).result = .ok plan ∧ docs ∈ plan.created ∧ bug ∈ plan.updated ∧
      bug ∉ plan.skipped ∧ ("type/bug", [.color, .description]) ∈ plan.changes := by
  have typed : ∀ label ∈ drifted, label.WellTyped := by
    simp only [drifted, List.forall_mem_cons, List.not_mem_nil, false_implies, implies_true, and_true]
    exact ⟨⟨_, _, _, _, rfl⟩, ⟨_, _, _, _, rfl⟩⟩
  have absent : ∀ label ∈ drifted, label.name ≠ .text docs.name := by
    simp [drifted, RemoteLabel.typed, docs]
  have existing : under bug.name drifted = some (.typed bug.name "#000000" none .null) := by
    rw [drifted, under_cons_of_ne (by simp [RemoteLabel.typed, bug])]
    exact under_cons_of_eq rfl
  have apart : normalColor "#000000" ≠ normalColor bug.color := by decide +kernel
  have first : IsFirst LabelSpec.name wanted bug := by decide +kernel
  obtain ⟨plan, planned, divided⟩ := ofLabels_divides wanted typed
  have updated : bug ∈ plan.updated := (divided.updated bug _ _ _ first existing).2 (.inl apart)
  refine ⟨typed, plan, planned, ?_, updated, ?_, ?_⟩
  · exact (divided.created docs (by decide +kernel)).2 absent
  · intro skipped
    exact apart ((divided.skipped bug _ _ _ first existing).1 skipped).1
  · have both : differing bug "#000000" none = [.color, .description] := by decide +kernel
    exact both ▸ divided.fields bug updated _ _ _ existing

end Plan

end Triage
