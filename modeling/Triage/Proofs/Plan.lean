import Mathlib.Data.List.Nodup
import Triage.Plan

/-!
# Plans that are carried out

A plan looks at the first entry of each desired name on the tracker and at nothing else. Once it is carried
out every desired name has an entry as it should be, so planning again finds nothing to do.
-/

namespace Triage

/-- The fields of a label have the types that they should have. -/
def RemoteLabel.WellTyped (label : RemoteLabel) : Prop :=
  ∃ name color description id, label = .typed name color description id

/-- The name of a column is a text. -/
def RemoteColumn.WellTyped (column : RemoteColumn) : Prop := ∃ name id, column = .typed name id

namespace Plan

/-! ## Carrying a plan out -/

/-- A label with the color and the description of a desired one. -/
def amended (spec : LabelSpec) (label : RemoteLabel) : RemoteLabel :=
  { label with color := .text spec.color, description := .text spec.description }

/-- Amends the first label with the name of a desired one. -/
def amendFirst (spec : LabelSpec) : List RemoteLabel → List RemoteLabel
  | [] => []
  | label :: rest =>
    if label.name == .text spec.name then amended spec label :: rest else label :: amendFirst spec rest

def amendAll (specs : List LabelSpec) (remote : List RemoteLabel) : List RemoteLabel :=
  specs.foldl (fun remote spec => amendFirst spec remote) remote

def newLabel (id : LabelSpec → Data) (spec : LabelSpec) : RemoteLabel :=
  .typed spec.name spec.color (some spec.description) (id spec)

/-- The labels on the tracker once a plan is carried out; new labels get some identity. -/
def carryOutLabels (id : LabelSpec → Data) (plan : Plan LabelSpec) (remote : List RemoteLabel) :
    List RemoteLabel :=
  amendAll plan.updated remote ++ plan.created.map (newLabel id)

/-- The columns on the tracker once a plan is carried out. -/
def carryOutColumns (id : Column → Data) (plan : Plan Column) (remote : List RemoteColumn) :
    List RemoteColumn :=
  remote ++ plan.created.map fun column => .typed column.name (id column)

/-! ## What a plan should be like -/

/-- Nothing is left to do, and given items are skipped. -/
structure Idle {α : Type} (plan : Plan α) (items : List α) : Prop where
  hasChanges : plan.hasChanges = false
  changes : plan.changes = []
  skipped : plan.skipped = items

/-- An entry of this name does not count: the name is not desired, or an earlier entry has it. -/
def Immaterial (desired : List String) (earlier : List Data) (name : Data) : Prop :=
  (name.unhashable = false ∧ ∀ wanted ∈ desired, name ≠ .text wanted) ∨ name ∈ earlier

/-- Plans that bring the entries of a tracker in line with desired items come to rest once they are carried
out, and only look at the first entry of each desired name. -/
structure Converges {α β : Type} (name : α → String) (entryName : β → Data) (WellTyped : β → Prop)
    (plan : List α → List β → Run (Plan α)) (carryOut : Plan α → List β → List β) : Prop where
  answers : ∀ desired remote, (∀ entry ∈ remote, WellTyped entry) →
    ∃ first, (plan desired remote).result = .ok first
  /-- Planned again, nothing is left to do, and the first item of every desired name is skipped. -/
  settles : ∀ desired remote first, (plan desired remote).result = .ok first →
    ∃ later, (plan desired (carryOut first remote)).result = .ok later ∧
      later.Idle (desired.eraseDupsBy fun a b => name a == name b)
  /-- No other names than those desired are in a plan. -/
  onlyDesired : ∀ desired remote first, (plan desired remote).result = .ok first →
    (first.created ++ first.updated ++ first.skipped).map name ++ first.changes.map Prod.fst ⊆ desired.map name
  immaterial : ∀ desired before entry after,
    Immaterial (desired.map name) (before.map entryName) (entryName entry) →
      plan desired (before ++ entry :: after) = plan desired (before ++ after)

section

variable {α β : Type} {name : α → String}

/-! ## First items -/

/-- Skipping names that were seen gives the first item of each name. -/
theorem firstOfEach_eq_eraseDupsBy (seen : List String) (items : List α) :
    firstOfEach name seen items =
      (items.filter fun a => !seen.contains (name a)).eraseDupsBy fun a b => name a == name b := by
  induction items generalizing seen with
  | nil => rfl
  | cons a rest ih =>
      rw [firstOfEach]
      by_cases before : seen.contains (name a) = true
      · rw [if_pos before, ih, List.filter_cons_of_neg (by simpa using before)]
      · rw [if_neg before, ih, List.filter_cons_of_pos (by simpa using before), List.eraseDupsBy_cons,
          List.filter_filter]
        congr 3
        funext b
        simp

theorem firstOfEach_sublist (seen : List String) (items : List α) :
    (firstOfEach name seen items).Sublist items := by
  induction items generalizing seen with
  | nil => exact List.Sublist.refl _
  | cons a rest ih =>
      rw [firstOfEach]
      split
      · exact (ih seen).cons a
      · exact (ih _).cons_cons a

theorem firstOfEach_subset (seen : List String) (items : List α) : firstOfEach name seen items ⊆ items :=
  (firstOfEach_sublist seen items).subset

theorem not_mem_of_mem_firstOfEach {seen : List String} {items : List α} {a : α}
    (member : a ∈ firstOfEach name seen items) : name a ∉ seen := by
  induction items generalizing seen with
  | nil => cases member
  | cons b rest ih =>
      rw [firstOfEach] at member
      split at member
      · exact ih member
      · rename_i fresh
        obtain rfl | later := List.mem_cons.1 member
        · simpa using fresh
        · exact fun before => ih later (List.mem_cons_of_mem _ before)

theorem nodup_firstOfEach (name : α → String) (seen : List String) (items : List α) :
    ((firstOfEach name seen items).map name).Nodup := by
  induction items generalizing seen with
  | nil => exact List.nodup_nil
  | cons a rest ih =>
      rw [firstOfEach]
      split
      · exact ih seen
      · refine List.nodup_cons.2 ⟨fun again => ?_, ih _⟩
        obtain ⟨b, member, same⟩ := List.mem_map.1 again
        exact not_mem_of_mem_firstOfEach member (same ▸ List.mem_cons_self)

/-! ## Findings -/

section

variable {found : List (α × Finding)} {a : α}

theorem mem_created_iff : a ∈ (ofFindings name found).created ↔ (a, .missing) ∈ found := by
  simp [ofFindings, having]

theorem mem_updated_iff : a ∈ (ofFindings name found).updated ↔ ∃ fields, (a, .differs fields) ∈ found := by
  simp only [ofFindings, having, List.mem_map, List.mem_filter]
  constructor
  · rintro ⟨⟨_, finding⟩, ⟨member, differs⟩, rfl⟩
    cases finding with
    | differs fields => exact ⟨fields, member⟩
    | _ => cases differs
  · rintro ⟨fields, member⟩
    exact ⟨_, ⟨member, rfl⟩, rfl⟩

/-- The items of a part of a plan stand in their order. -/
theorem having_sublist (p : Finding → Bool) (found : List (α × Finding)) :
    (having p found).Sublist (found.map Prod.fst) :=
  List.filter_sublist.map Prod.fst

theorem created_sublist (name : α → String) (found : List (α × Finding)) :
    (ofFindings name found).created.Sublist (found.map Prod.fst) :=
  having_sublist (· == .missing) found

theorem updated_sublist (name : α → String) (found : List (α × Finding)) :
    (ofFindings name found).updated.Sublist (found.map Prod.fst) := by
  simp only [ofFindings]
  exact having_sublist _ found

theorem skipped_sublist (name : α → String) (found : List (α × Finding)) :
    (ofFindings name found).skipped.Sublist (found.map Prod.fst) :=
  having_sublist (· == .same) found

/-- Every item that was compared is in one part of the plan, and only once. -/
theorem perm_ofFindings (name : α → String) (found : List (α × Finding)) :
    ((ofFindings name found).created ++ (ofFindings name found).updated ++ (ofFindings name found).skipped).Perm
      (found.map Prod.fst) := by
  induction found with
  | nil => exact .nil
  | cons entry rest ih =>
      obtain ⟨a, finding⟩ := entry
      simp only [ofFindings, having] at ih ⊢
      cases finding with
      | missing => exact ih.cons a
      | differs fields =>
          refine List.Perm.trans ?_ (ih.cons a)
          exact List.perm_middle.append_right _
      | same =>
          refine List.Perm.trans ?_ (ih.cons a)
          exact List.perm_middle

theorem idle_ofFindings (name : α → String) (items : List α) :
    (ofFindings name (items.map fun a => (a, .same))).Idle items where
  hasChanges := by simp [hasChanges, ofFindings, having, List.filter_map, Function.comp_def]
  changes := by simp [ofFindings, List.filterMap_map]
  skipped := by simp [ofFindings, having, List.filter_map, Function.comp_def]

/-- A plan names what was compared and nothing else. -/
theorem names_ofFindings_subset :
    ((ofFindings name found).created ++ (ofFindings name found).updated ++ (ofFindings name found).skipped).map name
      ++ (ofFindings name found).changes.map Prod.fst ⊆ (found.map Prod.fst).map name := by
  refine List.append_subset.2 ⟨List.map_subset name ?_, ?_⟩
  · exact List.append_subset.2 ⟨List.append_subset.2 ⟨(created_sublist name found).subset,
      (updated_sublist name found).subset⟩, (skipped_sublist name found).subset⟩
  · intro changed member
    obtain ⟨⟨_, fields⟩, among, rfl⟩ := List.mem_map.1 member
    obtain ⟨⟨a, finding⟩, compared, differs⟩ := List.mem_filterMap.1 among
    cases finding with
    | differs fields =>
        cases differs
        exact List.mem_map_of_mem (List.mem_map_of_mem compared)
    | _ => cases differs

end

end

/-! ## Names on the tracker -/

theorem beq_text_iff {value : Data} {s : String} : (value == .text s) = true ↔ value = .text s := by
  change value.same (.text s) = true ↔ _
  cases value <;> simp [Data.same, Data.number?]

theorem checkNames_eq_ok_iff {names : List Data} :
    checkNames names = .ok () ↔ ∀ name ∈ names, name.unhashable = false := by
  induction names with
  | nil => simp [checkNames]
  | cons name rest ih =>
      cases hashable : name.unhashable <;> simp [checkNames, hashable, ih]

/-- An entry that a search passes over, or that comes after another one like it, is never found. -/
theorem find?_immaterial {β : Type} {p : β → Bool} {before : List β} {entry : β}
    (idle : p entry = true → ∃ other ∈ before, p other = true) (after : List β) :
    (before ++ entry :: after).find? p = (before ++ after).find? p := by
  rw [List.find?_append, List.find?_append]
  cases found : before.find? p with
  | some other => rfl
  | none =>
      have passed : p entry = false := by
        rw [← Bool.not_eq_true]
        intro hit
        obtain ⟨other, member, also⟩ := idle hit
        exact List.find?_eq_none.1 found other member also
      rw [List.find?_cons_of_neg (by simp [passed])]

theorem checkNames_append (first second : List Data) :
    checkNames (first ++ second) = (do checkNames first; checkNames second) := by
  induction first with
  | nil => rfl
  | cons name rest ih =>
      cases hashable : name.unhashable with
      | true => simp [checkNames, hashable]; rfl
      | false => simp [checkNames, hashable, ih]

section

variable {desired : List String} {earlier later : List Data} {name : Data}

/-- An immaterial entry makes no difference to whether names can be looked up. -/
theorem checkNames_immaterial (immaterial : Immaterial desired earlier name) :
    checkNames (earlier ++ name :: later) = checkNames (earlier ++ later) := by
  rw [checkNames_append, checkNames_append]
  cases checked : checkNames earlier with
  | error fault => rfl
  | ok _ =>
      have hashable : name.unhashable = false := by
        obtain ⟨hashable, -⟩ | before := immaterial
        · exact hashable
        · exact checkNames_eq_ok_iff.1 checked name before
      change checkNames (name :: later) = checkNames later
      simp [checkNames, hashable]

/-- An immaterial entry is not the first one of a desired name. -/
theorem exists_before_of_immaterial {β : Type} {entryName : β → Data} {before : List β} {entry : β}
    {wanted : String} (immaterial : Immaterial desired (before.map entryName) (entryName entry))
    (member : wanted ∈ desired) (hit : (entryName entry == .text wanted) = true) :
    ∃ other ∈ before, (entryName other == .text wanted) = true := by
  obtain ⟨-, apart⟩ | twice := immaterial
  · exact absurd (beq_text_iff.1 hit) (apart wanted member)
  · obtain ⟨other, among, same⟩ := List.mem_map.1 twice
    exact ⟨other, among, same ▸ hit⟩

end

/-! ## Labels -/

section

variable {specs desired : List LabelSpec} {remote others : List RemoteLabel} {found : List (LabelSpec × Finding)}
  {spec : LabelSpec}

theorem labelFindings_of_forall {f : LabelSpec → Finding}
    (each : ∀ spec ∈ specs, findLabel remote spec = .ok (f spec)) :
    labelFindings remote specs = .ok (specs.map fun spec => (spec, f spec)) := by
  induction specs with
  | nil => rfl
  | cons spec rest ih =>
      obtain ⟨first, later⟩ := List.forall_mem_cons.1 each
      rw [labelFindings, first, ih later]
      rfl

theorem of_labelFindings_eq_ok (compared : labelFindings remote specs = .ok found) :
    found.map Prod.fst = specs ∧ ∀ entry ∈ found, findLabel remote entry.1 = .ok entry.2 := by
  induction specs generalizing found with
  | nil => cases compared; simp
  | cons spec rest ih =>
      rw [labelFindings] at compared
      cases first : findLabel remote spec with
      | error fault => rw [first] at compared; cases compared
      | ok finding =>
          cases later : labelFindings remote rest with
          | error fault => rw [first, later] at compared; cases compared
          | ok found =>
              rw [first, later] at compared
              cases compared
              obtain ⟨same, each⟩ := ih later
              exact ⟨congrArg (spec :: ·) same, List.forall_mem_cons.2 ⟨first, each⟩⟩

theorem labelFindings_congr (same : ∀ spec ∈ specs, findLabel remote spec = findLabel others spec) :
    labelFindings remote specs = labelFindings others specs := by
  induction specs with
  | nil => rfl
  | cons spec rest ih =>
      obtain ⟨first, later⟩ := List.forall_mem_cons.1 same
      rw [labelFindings, labelFindings, first, ih later]

theorem result_ofLabels_eq_ok_iff {plan : Plan LabelSpec} : (ofLabels desired remote).result = .ok plan ↔
    checkNames (remote.map RemoteLabel.name) = .ok () ∧
      ∃ found, labelFindings remote (firstOfEach LabelSpec.name [] desired) = .ok found ∧
        plan = ofFindings LabelSpec.name found := by
  constructor
  · intro planned
    obtain ⟨_, checked, planned⟩ := Run.result_bind_eq_ok.1 planned
    obtain ⟨found, compared, planned⟩ := Run.result_bind_eq_ok.1 planned
    cases planned
    exact ⟨checked, found, compared, rfl⟩
  · rintro ⟨checked, found, compared, rfl⟩
    refine Run.result_bind_eq_ok.2 ⟨(), checked, Run.result_bind_eq_ok.2 ⟨found, compared, rfl⟩⟩

/-- A label that was amended is as it should be. -/
theorem compareLabel_amended (spec : LabelSpec) (label : RemoteLabel) :
    compareLabel spec (amended spec label) = .ok .same := by
  have whole : (Data.text spec.description).orElse (.text "") = .text spec.description := by
    by_cases empty : spec.description = "" <;> simp [Data.orElse, Data.truthy, empty]
  have kept : (Data.text spec.description == .text spec.description) = true := beq_text_iff.2 rfl
  simp only [compareLabel, amended, remoteColor, whole, kept]
  change Except.ok _ = _
  simp

theorem compareLabel_ne_missing (spec : LabelSpec) (label : RemoteLabel) :
    compareLabel spec label ≠ .ok .missing := by
  have present (same : Bool) (fields : List LabelField) :
      (if same = true then Finding.same else .differs fields) ≠ .missing := by
    cases same <;> simp
  intro missing
  rw [compareLabel] at missing
  cases color : remoteColor label.color with
  | error fault =>
      rw [color] at missing
      cases missing
  | ok color' =>
      rw [color] at missing
      exact present _ _ (Except.ok.inj missing)

theorem map_name_amendFirst (spec : LabelSpec) (remote : List RemoteLabel) :
    (amendFirst spec remote).map RemoteLabel.name = remote.map RemoteLabel.name := by
  induction remote with
  | nil => rfl
  | cons label rest ih =>
      rw [amendFirst]
      split
      · rfl
      · rw [List.map_cons, ih, List.map_cons]

/-- The first label of a name on the tracker. -/
def under (wanted : String) (remote : List RemoteLabel) : Option RemoteLabel :=
  remote.find? (·.name == .text wanted)

theorem under_cons_of_eq {wanted : String} {label : RemoteLabel} {rest : List RemoteLabel}
    (named : label.name = .text wanted) : under wanted (label :: rest) = some label :=
  List.find?_cons_of_pos (beq_text_iff.2 named)

theorem under_cons_of_ne {wanted : String} {label : RemoteLabel} {rest : List RemoteLabel}
    (other : label.name ≠ .text wanted) : under wanted (label :: rest) = under wanted rest :=
  List.find?_cons_of_neg (other ∘ beq_text_iff.1)

/-- Amending the first label of a name changes what is found under that name and under no other. -/
theorem under_amendFirst (spec : LabelSpec) (remote : List RemoteLabel) (wanted : String) :
    under wanted (amendFirst spec remote) =
      if wanted = spec.name then (under wanted remote).map (amended spec) else under wanted remote := by
  induction remote with
  | nil => simp [amendFirst, under]
  | cons label rest ih =>
      rw [amendFirst]
      by_cases here : label.name = .text spec.name
      · rw [if_pos (beq_text_iff.2 here)]
        by_cases same : wanted = spec.name
        · subst same
          rw [if_pos rfl, under_cons_of_eq here, under_cons_of_eq (by exact here)]
          rfl
        · have other : label.name ≠ .text wanted := by
            rw [here]
            rintro ⟨rfl⟩
            exact same rfl
          rw [if_neg same, under_cons_of_ne other, under_cons_of_ne (by exact other)]
      · rw [if_neg (here ∘ beq_text_iff.1)]
        by_cases named : label.name = .text wanted
        · have other : wanted ≠ spec.name := fun same => here (same ▸ named)
          rw [if_neg other, under_cons_of_eq named, under_cons_of_eq named]
        · rw [under_cons_of_ne named, under_cons_of_ne named, ih]

theorem amendAll_cons (spec : LabelSpec) (specs : List LabelSpec) (remote : List RemoteLabel) :
    amendAll (spec :: specs) remote = amendAll specs (amendFirst spec remote) := rfl

/-- Amending leaves what is under other names. -/
theorem under_amendAll_of_not_mem {wanted : String} (specs : List LabelSpec) (remote : List RemoteLabel)
    (absent : wanted ∉ specs.map LabelSpec.name) :
    under wanted (amendAll specs remote) = under wanted remote := by
  induction specs generalizing remote with
  | nil => rfl
  | cons spec rest ih =>
      simp only [List.map_cons, List.mem_cons, not_or] at absent
      obtain ⟨other, later⟩ := absent
      rw [amendAll_cons, ih _ later, under_amendFirst, if_neg other]

/-- Amending several labels of different names amends each of them. -/
theorem under_amendAll_of_mem (specs : List LabelSpec) (remote : List RemoteLabel)
    (distinct : (specs.map LabelSpec.name).Nodup) (member : spec ∈ specs) :
    under spec.name (amendAll specs remote) = (under spec.name remote).map (amended spec) := by
  induction specs generalizing remote with
  | nil => cases member
  | cons first rest ih =>
      obtain ⟨apart, distinct⟩ := List.nodup_cons.1 distinct
      rw [amendAll_cons]
      obtain rfl | later := List.mem_cons.1 member
      · rw [under_amendAll_of_not_mem rest _ apart, under_amendFirst, if_pos rfl]
      · have other : spec.name ≠ first.name := fun same => apart (same ▸ List.mem_map_of_mem later)
        rw [ih _ distinct later, under_amendFirst, if_neg other]

theorem map_name_carryOutLabels (id : LabelSpec → Data) (plan : Plan LabelSpec) (remote : List RemoteLabel) :
    (carryOutLabels id plan remote).map RemoteLabel.name =
      remote.map RemoteLabel.name ++ plan.created.map fun spec => .text spec.name := by
  have kept (specs : List LabelSpec) (remote : List RemoteLabel) :
      (amendAll specs remote).map RemoteLabel.name = remote.map RemoteLabel.name := by
    induction specs generalizing remote with
    | nil => rfl
    | cons spec rest ih => rw [amendAll_cons, ih, map_name_amendFirst]
  rw [carryOutLabels, List.map_append, kept, List.map_map]
  rfl

/-- A new label is found under its name. -/
theorem under_created (id : LabelSpec → Data) (created : List LabelSpec)
    (distinct : (created.map LabelSpec.name).Nodup) (member : spec ∈ created) :
    under spec.name (created.map (newLabel id)) = some (newLabel id spec) := by
  induction created with
  | nil => cases member
  | cons first rest ih =>
      obtain ⟨apart, distinct⟩ := List.nodup_cons.1 distinct
      rw [List.map_cons]
      obtain rfl | later := List.mem_cons.1 member
      · exact under_cons_of_eq rfl
      · rw [under_cons_of_ne, ih distinct later]
        intro named
        have same : first.name = spec.name := Data.text.inj named
        exact apart (same ▸ List.mem_map_of_mem later)

/-- A label that is not updated is compared with the same entry as before. -/
theorem under_amendAll_of_not_differs {finding : Finding}
    (distinct : ((found.map Prod.fst).map LabelSpec.name).Nodup) (member : (spec, finding) ∈ found)
    (notUpdated : ∀ fields, finding ≠ .differs fields) :
    under spec.name (amendAll (ofFindings LabelSpec.name found).updated remote) = under spec.name remote := by
  refine under_amendAll_of_not_mem _ _ fun again => ?_
  obtain ⟨other, updated, same⟩ := List.mem_map.1 again
  obtain ⟨fields, among⟩ := mem_updated_iff.1 updated
  rw [List.map_map] at distinct
  cases List.inj_on_of_nodup_map distinct among member same
  exact notUpdated fields rfl

/-- Once a plan is carried out, every label that was compared is as it should be. -/
theorem findLabel_carryOutLabels (id : LabelSpec → Data)
    (distinct : ((found.map Prod.fst).map LabelSpec.name).Nodup)
    (compared : ∀ entry ∈ found, findLabel remote entry.1 = .ok entry.2) {entry : LabelSpec × Finding}
    (member : entry ∈ found) :
    findLabel (carryOutLabels id (ofFindings LabelSpec.name found) remote) entry.1 = .ok .same := by
  obtain ⟨spec, finding⟩ := entry
  have comparison := compared _ member
  rw [findLabel, ← under] at comparison ⊢
  rw [carryOutLabels, under, List.find?_append, ← under, ← under]
  cases finding with
  | missing =>
      cases first : under spec.name remote with
      | some existing =>
          rw [first] at comparison
          exact absurd comparison (compareLabel_ne_missing spec existing)
      | none =>
          have created : spec ∈ (ofFindings LabelSpec.name found).created := mem_created_iff.2 member
          have apart : ((ofFindings LabelSpec.name found).created.map LabelSpec.name).Nodup :=
            distinct.sublist ((created_sublist _ found).map _)
          rw [under_amendAll_of_not_differs distinct member (by simp), first, Option.none_or,
            under_created id _ apart created]
          exact compareLabel_amended spec ⟨.text spec.name, .null, .null, id spec⟩
  | differs fields =>
      have updated : spec ∈ (ofFindings LabelSpec.name found).updated := mem_updated_iff.2 ⟨fields, member⟩
      have apart : ((ofFindings LabelSpec.name found).updated.map LabelSpec.name).Nodup :=
        distinct.sublist ((updated_sublist _ found).map _)
      rw [under_amendAll_of_mem _ _ apart updated]
      cases first : under spec.name remote with
      | none => simp [first] at comparison
      | some existing => exact compareLabel_amended spec existing
  | same =>
      rw [under_amendAll_of_not_differs distinct member (by simp)]
      cases first : under spec.name remote with
      | none => simp [first] at comparison
      | some existing =>
          rw [first] at comparison
          exact comparison

theorem exists_findLabel (typed : ∀ label ∈ remote, label.WellTyped) (spec : LabelSpec) :
    ∃ finding, findLabel remote spec = .ok finding := by
  rw [findLabel]
  cases first : remote.find? (·.name == .text spec.name) with
  | none => exact ⟨.missing, rfl⟩
  | some existing =>
      obtain ⟨_, _, _, _, rfl⟩ := typed existing (List.mem_of_find?_eq_some first)
      exact ⟨_, rfl⟩

theorem exists_result_ofLabels (desired : List LabelSpec) (typed : ∀ label ∈ remote, label.WellTyped) :
    ∃ plan, (ofLabels desired remote).result = .ok plan := by
  have checked : checkNames (remote.map RemoteLabel.name) = .ok () := by
    refine checkNames_eq_ok_iff.2 fun name member => ?_
    obtain ⟨label, among, rfl⟩ := List.mem_map.1 member
    obtain ⟨_, _, _, _, rfl⟩ := typed label among
    rfl
  choose finding compared using exists_findLabel typed
  have found : labelFindings remote (firstOfEach LabelSpec.name [] desired) = .ok _ :=
    labelFindings_of_forall fun spec _ => compared spec
  exact ⟨_, result_ofLabels_eq_ok_iff.2 ⟨checked, _, found, rfl⟩⟩

/-- Plans for labels converge. -/
theorem converges_ofLabels (id : LabelSpec → Data) :
    Converges LabelSpec.name RemoteLabel.name RemoteLabel.WellTyped ofLabels (carryOutLabels id) where
  answers desired _ typed := exists_result_ofLabels desired typed
  settles := by
    intro desired remote first planned
    obtain ⟨checked, found, compared, rfl⟩ := result_ofLabels_eq_ok_iff.1 planned
    obtain ⟨items, each⟩ := of_labelFindings_eq_ok compared
    have distinct := nodup_firstOfEach LabelSpec.name [] desired
    rw [← items] at distinct
    have again : labelFindings (carryOutLabels id (ofFindings LabelSpec.name found) remote)
        (firstOfEach LabelSpec.name [] desired) =
          .ok ((firstOfEach LabelSpec.name [] desired).map fun a => (a, .same)) := by
      refine labelFindings_of_forall fun spec member => ?_
      obtain ⟨entry, among, rfl⟩ := List.mem_map.1 (items ▸ member)
      exact findLabel_carryOutLabels id distinct each among
    refine ⟨_, result_ofLabels_eq_ok_iff.2 ⟨?_, _, again, rfl⟩, ?_⟩
    · rw [map_name_carryOutLabels, checkNames_append, checked]
      refine checkNames_eq_ok_iff.2 fun name member => ?_
      obtain ⟨_, _, rfl⟩ := List.mem_map.1 member
      rfl
    · have idle := idle_ofFindings LabelSpec.name (firstOfEach LabelSpec.name [] desired)
      rw [firstOfEach_eq_eraseDupsBy] at idle ⊢
      simpa using idle
  onlyDesired := by
    intro desired remote first planned
    obtain ⟨-, found, compared, rfl⟩ := result_ofLabels_eq_ok_iff.1 planned
    obtain ⟨items, -⟩ := of_labelFindings_eq_ok compared
    refine List.Subset.trans names_ofFindings_subset (List.map_subset _ ?_)
    rw [items]
    exact firstOfEach_subset [] desired
  immaterial := by
    intro desired before entry after immaterial
    have same : labelFindings (before ++ entry :: after) (firstOfEach LabelSpec.name [] desired) =
        labelFindings (before ++ after) (firstOfEach LabelSpec.name [] desired) := by
      refine labelFindings_congr fun spec member => ?_
      have wanted := List.mem_map_of_mem (f := LabelSpec.name) (firstOfEach_subset [] desired member)
      rw [findLabel, findLabel, find?_immaterial (exists_before_of_immaterial immaterial wanted)]
    rw [ofLabels, ofLabels, same, List.map_append, List.map_append, List.map_cons, checkNames_immaterial immaterial]

end

/-! ## Columns -/

theorem result_ofColumns_eq_ok_iff {desired : List Column} {remote : List RemoteColumn} {plan : Plan Column} :
    (ofColumns desired remote).result = .ok plan ↔ checkNames (remote.map RemoteColumn.name) = .ok () ∧
      plan = ofFindings Column.name
        ((firstOfEach Column.name [] desired).map fun column => (column, findColumn remote column)) := by
  constructor
  · intro planned
    obtain ⟨_, checked, planned⟩ := Run.result_bind_eq_ok.1 planned
    cases planned
    exact ⟨checked, rfl⟩
  · rintro ⟨checked, rfl⟩
    exact Run.result_bind_eq_ok.2 ⟨(), checked, rfl⟩

/-- Once a plan is carried out, every column that was looked for is there. -/
theorem findColumn_carryOutColumns (id : Column → Data) {items : List Column} {remote : List RemoteColumn}
    {column : Column} (member : column ∈ items) :
    findColumn (carryOutColumns id
      (ofFindings Column.name (items.map fun column => (column, findColumn remote column))) remote) column =
        .same := by
  have present : (carryOutColumns id
      (ofFindings Column.name (items.map fun column => (column, findColumn remote column))) remote).any
        (·.name == .text column.name) = true := by
    rw [carryOutColumns, List.any_append, Bool.or_eq_true]
    cases found : remote.any (·.name == .text column.name) with
    | true => exact .inl rfl
    | false =>
        have missing : findColumn remote column = .missing := by simp [findColumn, found]
        have created : column ∈ (ofFindings Column.name
            (items.map fun column => (column, findColumn remote column))).created :=
          mem_created_iff.2 (List.mem_map.2 ⟨column, member, by rw [missing]⟩)
        exact .inr (List.any_eq_true.2 ⟨_, List.mem_map_of_mem created, beq_text_iff.2 rfl⟩)
  rw [findColumn, if_pos present]

/-- Plans for columns converge. -/
theorem converges_ofColumns (id : Column → Data) :
    Converges Column.name RemoteColumn.name RemoteColumn.WellTyped ofColumns (carryOutColumns id) where
  answers := by
    intro desired remote typed
    refine ⟨_, result_ofColumns_eq_ok_iff.2 ⟨checkNames_eq_ok_iff.2 fun name member => ?_, rfl⟩⟩
    obtain ⟨column, among, rfl⟩ := List.mem_map.1 member
    obtain ⟨_, _, rfl⟩ := typed column among
    rfl
  settles := by
    intro desired remote first planned
    obtain ⟨checked, rfl⟩ := result_ofColumns_eq_ok_iff.1 planned
    refine ⟨_, result_ofColumns_eq_ok_iff.2 ⟨?_, rfl⟩, ?_⟩
    · rw [carryOutColumns, List.map_append, checkNames_append, checked]
      refine checkNames_eq_ok_iff.2 fun name member => ?_
      obtain ⟨_, made, rfl⟩ := List.mem_map.1 member
      obtain ⟨_, _, rfl⟩ := List.mem_map.1 made
      rfl
    · rw [List.map_congr_left fun column member => by rw [findColumn_carryOutColumns id member]]
      have idle := idle_ofFindings Column.name (firstOfEach Column.name [] desired)
      rw [firstOfEach_eq_eraseDupsBy] at idle ⊢
      simpa using idle
  onlyDesired := by
    intro desired remote first planned
    obtain ⟨-, rfl⟩ := result_ofColumns_eq_ok_iff.1 planned
    refine List.Subset.trans names_ofFindings_subset (List.map_subset _ ?_)
    simpa [List.map_map, Function.comp_def] using firstOfEach_subset [] desired
  immaterial := by
    intro desired before entry after immaterial
    have same : ∀ column ∈ firstOfEach Column.name [] desired,
        (column, findColumn (before ++ entry :: after) column) = (column, findColumn (before ++ after) column) := by
      intro column member
      have wanted := List.mem_map_of_mem (f := Column.name) (firstOfEach_subset [] desired member)
      rw [findColumn, findColumn, ← List.isSome_find?, ← List.isSome_find?,
        find?_immaterial (exists_before_of_immaterial immaterial wanted)]
    rw [ofColumns, ofColumns, List.map_congr_left same, List.map_append, List.map_append, List.map_cons,
      checkNames_immaterial immaterial]

/-- Plans for labels and for columns come to rest once they are carried out. -/
theorem plans_converge (labelId : LabelSpec → Data) (columnId : Column → Data) :
    Converges LabelSpec.name RemoteLabel.name RemoteLabel.WellTyped ofLabels (carryOutLabels labelId) ∧
      Converges Column.name RemoteColumn.name RemoteColumn.WellTyped ofColumns (carryOutColumns columnId) :=
  ⟨converges_ofLabels labelId, converges_ofColumns columnId⟩

/-! ## Repeated names -/

/-- Labels that are desired, one of them twice. -/
def wanted : List LabelSpec :=
  [⟨"type/bug", "type", "d73a4a", "Something is broken"⟩, ⟨"type/test", "type", "1d76db", ""⟩,
    ⟨"type/bug", "type", "000000", ""⟩, ⟨"type/docs", "type", "0075ca", "Documentation"⟩]

/-- Labels on the tracker, one of them twice. -/
def present : List RemoteLabel :=
  [.typed "legacy" "cccccc" none .null, .typed "type/bug" "#D73A4A" none (.int 1),
    .typed "type/test" " #1D76DB" none .null, .typed "type/bug" "000000" (some "") (.int 2)]

theorem wanted_settles : ∃ first later, (ofLabels wanted present).result = .ok first ∧
    first.created.map LabelSpec.name = ["type/docs"] ∧ first.changes = [("type/bug", [.description])] ∧
    (ofLabels wanted (carryOutLabels (fun _ => .null) first present)).result = .ok later ∧
    later.hasChanges = false ∧ later.skipped.map LabelSpec.name = ["type/bug", "type/test", "type/docs"] := by
  have plans := (plans_converge (fun _ => .null) fun _ => .null).1
  have typed : ∀ label ∈ present, label.WellTyped := by
    simp only [present, List.forall_mem_cons, List.not_mem_nil, false_implies, implies_true, and_true]
    exact ⟨⟨_, _, _, _, rfl⟩, ⟨_, _, _, _, rfl⟩, ⟨_, _, _, _, rfl⟩, ⟨_, _, _, _, rfl⟩⟩
  obtain ⟨first, planned⟩ := plans.answers wanted present typed
  obtain ⟨later, again, idle⟩ := plans.settles wanted present first planned
  have shown : (ofLabels wanted present).result.map (fun plan => (plan.created.map LabelSpec.name, plan.changes)) =
      .ok (["type/docs"], [("type/bug", [.description])]) := by
    decide +kernel
  rw [planned] at shown
  obtain ⟨created, changes⟩ := Prod.mk.inj (Except.ok.inj shown)
  refine ⟨first, later, planned, created, changes, again, idle.hasChanges, ?_⟩
  rw [idle.skipped]
  decide +kernel

end Plan

end Triage
