import Mathlib.Data.List.Forall2
import Triage.Proofs.Policy.Obstacles
import Triage.Proofs.Policy.RoundTrip

/-!
# What a policy takes over from its document

A policy that was read has one label, one column, one rule and one trigger for each entry of the mapping or the list
that they come from, in its order. No entry is passed over, and none is replaced by what is standard.
-/

namespace Triage

namespace Data

/-- The items of a list; any other value has none. -/
def listed : Data → List Data
  | .list items => items
  | _ => []

/-- No text is the key of two entries. -/
def OneEach (value : Data) : Prop := (value.keys.filterMap text?).Nodup

instance (value : Data) : Decidable value.OneEach := inferInstanceAs (Decidable (List.Nodup _))

/-- What stands under a key, or a text where nothing stands there. -/
def chosen (key standard : String) (value : Data) : Data := (lookup key value.entries).getD (.text standard)

theorem chosen_map (key standard : String) (entries : List (Data × Data)) :
    chosen key standard (.map entries) = (lookup key entries).getD (.text standard) := rfl

theorem eq_text_of_text? {value : Data} {s : String} (text : value.text? = some s) : value = .text s := by
  cases value with
  | text t => exact congrArg Data.text (Option.some_injective _ text)
  | _ => cases text

/-- A value that is read as a name is the text of the name. -/
theorem eq_text_of_name {α : Type} {all : List α} {name : α → String} {value : Data} {a : α}
    (found : value.text?.bind (fun s => all.find? fun a => name a == s) = some a) : value = .text (name a) := by
  obtain ⟨s, text, named⟩ := Option.bind_eq_some_iff.1 found
  have same : name a = s := by simpa using List.find?_some named
  exact same ▸ eq_text_of_text? text

end Data

/-! ## Values and what they are taken from -/

/-- A definition of a label; one number sign before the color is dropped. -/
structure LabelDefinition.From (raw : Data) (d : LabelDefinition) : Prop where
  color : ∃ written, raw.inside ["color"] = .text written ∧ (written = d.color ∨ written = "#" ++ d.color)
  description : raw.inside ["description"] = .text d.description ∨
    raw.inside ["description"] = .null ∧ d.description = ""
  sla : raw.inside ["sla_hours"] = d.slaHours.elim .null fun hours => .int hours

/-- A label under its short name. -/
def LabelDefinition.FromEntry (entry : Data × Data) (label : String × LabelDefinition) : Prop :=
  entry.1 = .text label.1 ∧ label.2.From entry.2

structure Column.From (raw : Data) (c : Column) : Prop where
  name : raw.inside ["name"] = .text c.name
  mapsTo : raw.inside ["maps_to"] = .text c.mapsTo

structure EscalationRule.From (raw : Data) (r : EscalationRule) : Prop where
  source : raw.inside ["from_priority"] = .text r.source
  target : raw.inside ["to_priority"] = .text r.target
  afterDays : raw.inside ["after_days"] = .int r.afterDays

structure Trigger.From (raw : Data) (t : Trigger) : Prop where
  pattern : raw.inside ["pattern"] = .text t.pattern
  weight : ∃ weight, (raw.inside ["weight"]).weight? = some weight ∧ weight.toFloat? = some t.weight
  name : raw.inside ["name"] = t.name.elim .null .text

/-- The triggers of a label, under the text of the key of a list. -/
def Trigger.FromEntry (entry : Data × Data) (row : String × List Trigger) : Prop :=
  entry.1.display = row.1 ∧ ∃ items, entry.2 = .list items ∧ List.Forall₂ Trigger.From items row.2

/-! ## What a list of readings ensures -/

/-- What stands in the second list stands for something in the first. -/
theorem exists_of_forall₂ {α β : Type} {R : α → β → Prop} {as : List α} {bs : List β} {b : β}
    (related : List.Forall₂ R as bs) (member : b ∈ bs) : ∃ a ∈ as, R a b := by
  induction related with
  | nil => cases member
  | cons head _ ih =>
      obtain rfl | later := List.mem_cons.1 member
      · exact ⟨_, List.mem_cons_self, head⟩
      · obtain ⟨a, among, holds⟩ := ih later
        exact ⟨a, List.mem_cons_of_mem _ among, holds⟩

namespace Checked

variable {ε α β : Type} {R : α → β → Prop} {a : α} {as : List α}

/-- What comes behind a problem makes no difference. -/
theorem Ensures.flawed_bind {γ : Type} {problem : ε} {b : β} {f : β → Checked ε γ} {P : γ → Prop} :
    (Checked.flawed problem b >>= f).Ensures P :=
  .bind (P := fun _ => False) .flawed fun _ => False.elim

/-- An item in front of others, each taken from an element. -/
theorem Ensures.forall₂_cons {first : Checked ε (Option β)} {others : Checked ε (List β)}
    (here : first.Ensures fun found => ∃ b, found = some b ∧ R a b) (there : others.Ensures (List.Forall₂ R as)) :
    Ensures (do
      let b ← first
      let rest ← others
      Pure.pure (b.toList ++ rest)) (List.Forall₂ R (a :: as)) := by
  refine here.bind fun found taken => there.bind fun rest follow => .pure ?_
  obtain ⟨b, rfl, related⟩ := taken
  exact .cons related follow

theorem collect_forall₂ {read : Nat → α → Checked ε (Option β)}
    (each : ∀ place a, (read place a).Ensures fun found => ∃ b, found = some b ∧ R a b) (items : List α)
    (place : Nat) : (collect read place items).Ensures (List.Forall₂ R items) := by
  induction items generalizing place with
  | nil => exact .pure .nil
  | cons a rest ih => exact .forall₂_cons (each place a) (ih (place + 1))

end Checked

namespace Policy

namespace Bounded.Ensures

variable {α β : Type} {R : α → β → Prop} {P : β → Prop} {a : α} {as : List α}

theorem flawed_bind {problem : Problem} {a : α} {f : α → Bounded β} : Ensures (Bounded.flawed problem a >>= f) P :=
  .bind (P := fun _ => False) .flawed fun _ => False.elim

/-- An item in front of others, each taken from an element. -/
theorem forall₂_cons {first : Bounded (Option β)} {others : Bounded (List β)}
    (here : Ensures first fun found => ∃ b, found = some b ∧ R a b) (there : Ensures others (List.Forall₂ R as)) :
    Ensures (do
      let b ← first
      let rest ← others
      Pure.pure (b.toList ++ rest)) (List.Forall₂ R (a :: as)) := by
  refine here.bind fun found taken => there.bind fun rest follow => .pure ?_
  obtain ⟨b, rfl, related⟩ := taken
  exact .cons related follow

theorem ofExcept {x : Except Fault β} (holds : ∀ b, x = .ok b → P b) : Ensures (liftM x) P := by
  cases x with
  | error fault => exact .throw
  | ok b => exact .pure (holds b rfl)

end Bounded.Ensures

/-! ## Fields -/

theorem mapping_required (path : String) (raw : Data) :
    (mapping path true raw).Ensures fun found => ∃ entries, found = some entries ∧ raw = .map entries := by
  cases raw with
  | map entries => exact .pure ⟨entries, rfl, rfl⟩
  | _ => exact .flawed

/-- Without a problem a value is a mapping, or there is none. -/
theorem mapping_optional (path : String) (raw : Data) : (mapping path false raw).Ensures fun found =>
    (∃ entries, found = some entries ∧ raw = .map entries) ∨ found = none ∧ raw = .null := by
  cases raw with
  | map entries => exact .pure (.inl ⟨entries, rfl, rfl⟩)
  | null => exact .pure (.inr ⟨rfl, rfl⟩)
  | _ => exact .flawed

theorem mapping_entries (path : String) (raw : Data) :
    (mapping path false raw).Ensures fun found => found.getD [] = raw.entries := by
  intro clean
  obtain ⟨entries, same, rfl⟩ | ⟨same, rfl⟩ := mapping_optional path raw clean
  · rw [same]
    rfl
  · rw [same]
    rfl

theorem textField_ensures (entries : Entries) (key path : String) : (textField entries key path).Ensures fun found =>
    Data.field key entries = found.elim .null .text := by
  unfold textField
  split
  · rename_i absent
    exact .pure absent
  · rename_i s given
    exact .pure given
  · exact .flawed

/-- A choice is the one that is named, or the standard one where nothing is. -/
theorem choiceField_ensures {α : Type} (all : List α) (name : α → String) (names : List String) (standard : α)
    (entries : Entries) (key path : String) : Bounded.Ensures
      (choiceField names (fun s => all.find? fun a => name a == s) standard entries key path) fun a =>
        Data.chosen key (name standard) (.map entries) = .text (name a) := by
  unfold choiceField
  split
  · rename_i absent
    refine .pure ?_
    rw [Data.chosen_map, absent]
    rfl
  · rename_i value given
    split
    · rename_i a found
      refine .pure ?_
      rw [Data.chosen_map, given]
      exact Data.eq_text_of_name found
    · exact .skip fun shown => .flawed

theorem listField_ensures (entries : Entries) (key path : String) : (listField entries key path).Ensures fun found =>
    found = some (Data.field key entries).listed := by
  unfold listField
  dsimp only
  split
  · split
    · rename_i items given
      rw [given]
      exact .pure rfl
    · exact .flawed
  · rename_i idle
    refine .pure ?_
    cases given : Data.field key entries with
    | list items =>
        have none : items = [] := by simpa [given, Data.truthy] using idle
        rw [none]
        rfl
    | _ => rfl

/-! ## Labels -/

theorem readColor_from (path : String) (raw : Data) : (readColor path raw).Ensures fun found => ∃ color,
    found = some color ∧ ∃ written, raw = .text written ∧ (written = color ∨ written = "#" ++ color) := by
  unfold readColor
  split
  · rename_i written
    dsimp only
    split
    · refine .pure ⟨_, rfl, written, rfl, ?_⟩
      cases marked : Text.after? "#" written with
      | none => exact .inl rfl
      | some rest => exact .inr (Text.eq_append_of_after? marked)
    · exact .flawed
  · exact .flawed

theorem readDescription_from (path : String) (entries : Entries) :
    (readDescription path entries).Ensures fun description =>
      Data.field "description" entries = .text description ∨
        Data.field "description" entries = .null ∧ description = "" := by
  unfold readDescription
  split
  · rename_i absent
    exact .pure (.inr ⟨absent, rfl⟩)
  · rename_i s given
    exact .pure (.inl given)
  · exact .flawed

theorem readSla_from (c : Category) (path : String) (raw : Data) :
    (readSla c path raw).Ensures fun sla => raw = sla.elim .null fun hours => .int hours := by
  unfold readSla
  split
  · exact .pure rfl
  · split
    · exact .flawed
    · split
      · split
        · rename_i n positive
          refine .pure ?_
          rw [Option.elim_some, Int.toNat_of_nonneg positive.le]
        · exact .flawed
      · exact .flawed

theorem readDefinition_from (c : Category) (path : String) (raw : Data) :
    (readDefinition c path raw).Ensures fun found => ∃ d, found = some d ∧ d.From raw := by
  refine (mapping_required path raw).bind fun found given => ?_
  obtain ⟨entries, rfl, rfl⟩ := given
  refine (readColor_from _ _).bind fun found colored => (readDescription_from _ _).bind fun description described =>
    (readSla_from c _ _).bind fun sla bounded => .pure ?_
  obtain ⟨color, rfl, written⟩ := colored
  exact ⟨_, rfl, written, described, bounded⟩

theorem readLabels_from (c : Category) (path : String) (entries : Entries) :
    Bounded.Ensures (readLabels c path entries) (List.Forall₂ LabelDefinition.FromEntry entries) := by
  induction entries with
  | nil => exact .pure .nil
  | cons entry rest ih =>
      obtain ⟨key, raw⟩ := entry
      unfold readLabels
      dsimp only
      split
      -- A key that is no name is noted as a problem, and then nothing is claimed about the rest.
      · exact .skip fun shown => .flawed_bind
      · rename_i short named
        refine .bind (.lift (readDefinition_from c _ raw)) fun found taken => .forall₂_cons (.pure ?_) ih
        obtain ⟨d, rfl, source⟩ := taken
        exact ⟨(short, d), rfl, Data.eq_text_of_text? (Option.filter_eq_some_iff.1 named).1, source⟩

/-- The labels of a group are put together from the entries of a mapping. -/
theorem readGroup_from (c : Category) (lead : String) (raw : Data) : Bounded.Ensures (readGroup c lead raw) fun g =>
    ∃ labels, List.Forall₂ LabelDefinition.FromEntry raw.entries labels ∧ g.labels = .ofList labels := by
  refine .bind (.lift (mapping_entries _ raw)) fun found same => ?_
  rw [← same]
  exact .bind (readLabels_from c _ _) fun labels taken => .pure ⟨labels, taken, rfl⟩

theorem readTaxonomy_from (raw : Data) : Bounded.Ensures (readTaxonomy raw) fun found => ∃ t : Taxonomy,
    found = some t ∧ ∀ c, ∃ labels,
      List.Forall₂ LabelDefinition.FromEntry (raw.inside [Category.name c]).entries labels ∧
        (t.group c).labels = .ofList labels := by
  have leading : Bounded.Ensures (readLeading raw) fun found => ∃ entries leads,
      found = some (entries, leads) ∧ raw = .map entries := by
    refine .bind (.lift (mapping_required _ raw)) fun found given => ?_
    obtain ⟨entries, rfl, rfl⟩ := given
    exact .skip fun rawLeads => .skip fun leads => .pure ⟨entries, leads, rfl, rfl⟩
  refine .bind leading fun found given => ?_
  obtain ⟨entries, leads, rfl, rfl⟩ := given
  refine .bind (readGroup_from _ _ _) fun status from₁ => .bind (readGroup_from _ _ _) fun priority from₂ =>
    .bind (readGroup_from _ _ _) fun type from₃ => .bind (readGroup_from _ _ _) fun area from₄ =>
    .bind (readGroup_from _ _ _) fun workflow from₅ => .pure ⟨_, rfl, fun c => ?_⟩
  cases c with
  | status => exact from₁
  | priority => exact from₂
  | type => exact from₃
  | area => exact from₄
  | workflow => exact from₅

/-! ## Project and board -/

theorem readProject_from (raw : Data) : Bounded.Ensures (readProject raw) fun found => ∃ project : Project,
    found = some project ∧ raw.inside ["type"] = .text project.kind.name := by
  refine .bind (.lift (mapping_required _ raw)) fun found given => ?_
  obtain ⟨entries, rfl, rfl⟩ := given
  dsimp only
  split
  · exact .flawed
  · split
    · exact .skip fun literal => .flawed
    · rename_i kind found
      exact .skip fun language => .skip fun name => .skip fun repo => .pure ⟨_, rfl, Data.eq_text_of_name found⟩

theorem eq_text_of_filledText? {value : Data} {s : String} (filled : filledText? value = some s) : value = .text s :=
  Data.eq_text_of_text? (Option.filter_eq_some_iff.1 filled).1

theorem readColumn_from (place : Nat) (raw : Data) :
    (readColumn place raw).Ensures fun found => ∃ c, found = some c ∧ c.From raw := by
  refine (mapping_required _ raw).bind fun found given => ?_
  obtain ⟨entries, rfl, rfl⟩ := given
  dsimp only
  split
  · exact .flawed
  · rename_i name named
    split
    · exact .flawed
    · rename_i mapsTo mapped
      exact .pure ⟨_, rfl, eq_text_of_filledText? named, eq_text_of_filledText? mapped⟩

theorem readBoard_from (raw : Data) : (readBoard raw).Ensures fun b =>
    raw.chosen "name" Board.standardName = .text b.name ∧
      List.Forall₂ Column.From (raw.inside ["columns"]).listed b.columns := by
  refine (mapping_optional _ raw).bind fun found given => ?_
  obtain ⟨entries, rfl, rfl⟩ | ⟨rfl, rfl⟩ := given
  · -- whatever the name is, the columns are read in the same way
    have behind (name : String)
        (chosen : Data.chosen "name" Board.standardName (.map entries) = .text name) : Checked.Ensures (do
          let items ← listField entries "columns" "board"
          let columns ← Checked.collect readColumn 0 (items.getD [])
          pure (⟨name, columns⟩ : Board)) fun b : Board =>
            Data.chosen "name" Board.standardName (.map entries) = .text b.name ∧
              List.Forall₂ Column.From (Data.inside (.map entries) ["columns"]).listed b.columns := by
      refine (listField_ensures entries "columns" "board").bind fun items listed => ?_
      rw [listed]
      exact (Checked.collect_forall₂ readColumn_from _ 0).bind fun columns taken => .pure ⟨chosen, taken⟩
    dsimp only
    split
    · rename_i absent
      refine behind _ ?_
      rw [Data.chosen_map, absent]
      rfl
    · rename_i value named
      split
      · rename_i name filled
        refine behind name ?_
        rw [Data.chosen_map, named]
        exact eq_text_of_filledText? filled
      · exact .flawed_bind
  · exact .pure ⟨rfl, .nil⟩

/-! ## Automation -/

theorem readTrigger_from (path : String) (raw : Data) :
    Bounded.Ensures (readTrigger path raw) fun found => ∃ t, found = some t ∧ t.From raw := by
  refine .bind (.lift (mapping_required _ raw)) fun found given => ?_
  obtain ⟨entries, rfl, rfl⟩ := given
  dsimp only
  split
  · exact .flawed
  · rename_i pattern filled
    split
    · unfold ofPatternFault
      split
      · exact .throw
      · exact .throw
      · exact .throw
      · exact .flawed
    · split
      · exact .flawed
      · rename_i weight weighs
        split
        · exact .throw
        · rename_i x near
          refine .bind (.lift (textField_ensures entries "name" path)) fun name named => .pure ⟨_, rfl, ?_⟩
          exact ⟨eq_text_of_filledText? filled, ⟨weight, weighs, near⟩, named⟩

theorem readTriggers_from (path : String) (place : Nat) (items : List Data) :
    Bounded.Ensures (readTriggers path place items) (List.Forall₂ Trigger.From items) := by
  induction items generalizing place with
  | nil => exact .pure .nil
  | cons raw rest ih => exact .forall₂_cons (readTrigger_from _ raw) (ih (place + 1))

theorem readTriggerLists_from (path : String) (entries : Entries) :
    Bounded.Ensures (readTriggerLists path entries) (List.Forall₂ Trigger.FromEntry entries) := by
  induction entries with
  | nil => exact .pure .nil
  | cons entry rest ih =>
      obtain ⟨key, raw⟩ := entry
      refine .bind (.ofExcept fun short shown => (result_shown_eq_ok_iff.1 shown).2) fun short displayed => ?_
      dsimp only
      split
      · rename_i items
        refine .bind (readTriggers_from _ 0 items) fun triggers taken => .forall₂_cons (.pure ?_) ih
        exact ⟨(short, triggers), rfl, displayed, items, rfl, taken⟩
      · exact .flawed_bind

/-- A trigger table follows the entry of an inferred category. -/
def TableFrom (entry : Data × Data) (table : String × TriggerTable) : Prop :=
  entry.1 = .text table.1 ∧ ∃ rows, List.Forall₂ Trigger.FromEntry entry.2.entries rows ∧ table.2 = .ofList rows

theorem readOverrides_from (path : String) (entries : Entries) :
    Bounded.Ensures (readOverrides path entries) (List.Forall₂ TableFrom entries) := by
  induction entries with
  | nil => exact .pure .nil
  | cons entry rest ih =>
      obtain ⟨key, raw⟩ := entry
      refine .skip fun shown => ?_
      dsimp only
      split
      · exact .flawed_bind
      · rename_i c allowed
        have named : key = .text c.name := Data.eq_text_of_name (Option.filter_eq_some_iff.1 allowed).1
        refine .bind (.lift (mapping_entries _ raw)) fun found same => .bind (readTriggerLists_from _ _) fun rows
          taken => .forall₂_cons (.pure ⟨(c.name, .ofList rows), rfl, named, rows, ?_, rfl⟩) ih
        rw [← same]
        exact taken

theorem readTables_from (path : String) (raw : Data) : Bounded.Ensures (readTables path raw) fun overrides =>
    ∀ tables ∈ overrides, ∃ found, List.Forall₂ TableFrom raw.entries found ∧ tables = .ofList found := by
  refine .bind (.lift (mapping_optional _ raw)) fun found given => ?_
  obtain ⟨entries, rfl, rfl⟩ | ⟨rfl, rfl⟩ := given
  · refine .bind (readOverrides_from _ entries) fun tables taken => .pure ?_
    rintro _ ⟨rfl⟩
    exact ⟨tables, taken, rfl⟩
  · exact .pure (by simp)

theorem readInference_from (raw : Data) : Bounded.Ensures (readInference raw) fun s => ∀ tables ∈ s.overrides,
    ∃ found, List.Forall₂ TableFrom (raw.inside ["triggers"]).entries found ∧ tables = .ofList found := by
  refine .bind (.lift (mapping_optional _ raw)) fun found given => ?_
  obtain ⟨entries, rfl, rfl⟩ | ⟨rfl, rfl⟩ := given
  · have behind (threshold : Float) : Bounded.Ensures (do
        let enabled ← boolField entries "enabled" "automation.label_inference" true
        let tables ← readTables ("automation.label_inference" ++ ".triggers") (Data.field "triggers" entries)
        return (⟨enabled, threshold, tables⟩ : InferenceSettings)) fun s => ∀ tables ∈ s.overrides, ∃ found,
          List.Forall₂ TableFrom (Data.field "triggers" entries).entries found ∧ tables = .ofList found :=
      .skip fun enabled => .bind (readTables_from _ _) fun tables taken => .pure taken
    dsimp only
    split
    · exact behind 0
    · split
      · exact behind _
      · exact .skip fun threshold => behind threshold
  · exact .pure (by simp)

theorem readRule_from (path : String) (place : Nat) (raw : Data) :
    (readRule path place raw).Ensures fun found => ∃ r, found = some r ∧ r.From raw := by
  refine (mapping_required _ raw).bind fun found given => ?_
  obtain ⟨entries, rfl, rfl⟩ := given
  dsimp only
  split
  · rename_i source target climbs reaches
    split
    · rename_i days waits
      exact .pure ⟨_, rfl, climbs, reaches, waits⟩
    · exact .flawed
  · exact .flawed

theorem readEscalation_from (raw : Data) : (readEscalation raw).Ensures fun s =>
    List.Forall₂ EscalationRule.From (raw.inside ["rules"]).listed s.rules := by
  refine (mapping_optional _ raw).bind fun found given => ?_
  obtain ⟨entries, rfl, rfl⟩ | ⟨rfl, rfl⟩ := given
  · refine (listField_ensures entries "rules" _).bind fun items listed => ?_
    rw [listed]
    exact (Checked.collect_forall₂ (readRule_from _) _ 0).bind fun rules taken => .skip fun enabled => .pure taken
  · exact .pure .nil

/-- The hours of a priority, under the text of the key of a number. -/
def HoursFrom (entry : Data × Data) (row : String × Number) : Prop :=
  entry.1.display = row.1 ∧ entry.2.weight? = some row.2

theorem readSlaTable_from (path : String) (entries : Entries) :
    Bounded.Ensures (readSlaTable path entries) (List.Forall₂ HoursFrom entries) := by
  induction entries with
  | nil => exact .pure .nil
  | cons entry rest ih =>
      obtain ⟨key, value⟩ := entry
      refine .bind (.ofExcept fun priority shown => (result_shown_eq_ok_iff.1 shown).2) fun priority displayed => ?_
      dsimp only
      split
      · rename_i hours weighs
        exact .forall₂_cons (.pure ⟨(priority, hours), rfl, displayed, weighs⟩) ih
      · exact .flawed_bind

theorem readBlocked_from (raw : Data) : Bounded.Ensures (readBlocked raw) fun s =>
    ∃ rows, List.Forall₂ HoursFrom (raw.inside ["sla"]).entries rows ∧ s.sla = .ofList rows := by
  refine .bind (.lift (mapping_optional _ raw)) fun found given => ?_
  obtain ⟨entries, rfl, rfl⟩ | ⟨rfl, rfl⟩ := given
  · refine .bind (.lift (mapping_entries _ (Data.field "sla" entries))) fun found same =>
      .bind (readSlaTable_from _ _) fun rows taken => ?_
    have whole : List.Forall₂ HoursFrom (Data.field "sla" entries).entries rows := same ▸ taken
    have behind (ratio : Float) : Bounded.Ensures (do
        let enabled ← boolField entries "enabled" "automation.blocked_detection" true
        return (⟨enabled, .ofList rows, ratio⟩ : BlockedSettings)) fun s : BlockedSettings =>
          ∃ rows, List.Forall₂ HoursFrom (Data.field "sla" entries).entries rows ∧ s.sla = .ofList rows :=
      .skip fun enabled => .pure ⟨rows, whole, rfl⟩
    split
    · exact behind _
    · split
      · exact behind _
      · exact .skip fun ratio => behind ratio
  · exact .pure ⟨[], .nil, rfl⟩

theorem readSync_from (raw : Data) : Bounded.Ensures (readSync raw) fun s =>
    raw.chosen "direction" Direction.both.name = .text s.direction.name ∧
      raw.chosen "conflict_resolution" Resolution.keepLast.name = .text s.resolution.name := by
  refine .bind (.lift (mapping_optional _ raw)) fun found given => ?_
  obtain ⟨entries, rfl, rfl⟩ | ⟨rfl, rfl⟩ := given
  · exact .skip fun enabled => .bind (choiceField_ensures Direction.all Direction.name _ .both entries _ _) fun
      direction directed => .bind (choiceField_ensures Resolution.all Resolution.name _ .keepLast entries _ _) fun
      resolution resolved => .pure ⟨directed, resolved⟩
  · exact .pure ⟨rfl, rfl⟩

/-- What the automation takes over. -/
structure AutomationFrom (raw : Data) (a : Automation) : Prop where
  triggers : ∀ tables ∈ a.inference.overrides, ∃ found,
    List.Forall₂ TableFrom (raw.inside ["label_inference", "triggers"]).entries found ∧ tables = .ofList found
  rules : List.Forall₂ EscalationRule.From (raw.inside ["priority_escalation", "rules"]).listed a.escalation.rules
  sla : ∃ rows, List.Forall₂ HoursFrom (raw.inside ["blocked_detection", "sla"]).entries rows ∧
    a.blocked.sla = .ofList rows
  direction : (raw.inside ["status_sync"]).chosen "direction" Direction.both.name = .text a.sync.direction.name
  resolution : (raw.inside ["status_sync"]).chosen "conflict_resolution" Resolution.keepLast.name =
    .text a.sync.resolution.name

theorem readAutomation_from (raw : Data) : Bounded.Ensures (readAutomation raw) (AutomationFrom raw) := by
  refine .bind (.lift (mapping_optional _ raw)) fun found given => ?_
  have inside (key : String) : Data.field key (found.getD []) = raw.inside [key] := by
    obtain ⟨entries, rfl, rfl⟩ | ⟨rfl, rfl⟩ := given
    · rfl
    · rfl
  simp only [inside]
  exact .bind (readInference_from _) fun inference triggers => .bind (.lift (readEscalation_from _)) fun escalation
    rules => .bind (readBlocked_from _) fun blocked sla => .bind (readSync_from _) fun sync chosen =>
    .skip fun intake => .pure ⟨triggers, rules, sla, chosen.1, chosen.2⟩

/-! ## The whole policy -/

section

variable {document : Data} {p : Policy}

theorem labels_of_ofData (read : (ofData document).result = .ok p) (c : Category) : ∃ labels,
    List.Forall₂ LabelDefinition.FromEntry (document.inside ["labels", c.name]).entries labels ∧
      (p.group c).labels = .ofList labels := by
  cases document with
  | map entries =>
      have taken := readTaxonomy_from (Data.field "labels" entries)
      rw [(ofEntries_eq_ok_iff.1 read).2.1] at taken
      obtain ⟨_, ⟨⟩, each⟩ := taken rfl _ rfl
      exact each c
  | _ => cases read

theorem automation_of_ofData (read : (ofData document).result = .ok p) :
    AutomationFrom (document.inside ["automation"]) p.automation := by
  cases document with
  | map entries =>
      have taken := readAutomation_from (Data.field "automation" entries)
      rw [(ofEntries_eq_ok_iff.1 read).2.2.2.1] at taken
      exact taken rfl _ rfl
  | _ => cases read

end

/-- What a policy takes over from its document: from each entry of a mapping or a list one label, column, rule or
trigger, in the order of the entries. -/
structure From (document : Data) (p : Policy) : Prop where
  kind : document.inside ["project", "type"] = .text p.project.kind.name
  labels : ∀ c, List.Forall₂ LabelDefinition.FromEntry (document.inside ["labels", Category.name c]).entries
    (p.group c).labels.entries
  board : (document.inside ["board"]).chosen "name" Board.standardName = .text p.board.name
  columns : List.Forall₂ Column.From (document.inside ["board", "columns"]).listed p.board.columns
  rules : List.Forall₂ EscalationRule.From (document.inside ["automation", "priority_escalation", "rules"]).listed
    p.automation.escalation.rules
  triggers : ∀ tables ∈ p.automation.inference.overrides, ∀ table ∈ tables.entries,
    ∃ entry ∈ (document.inside ["automation", "label_inference", "triggers"]).entries, entry.1 = .text table.1 ∧
      ∀ row ∈ table.2.entries, ∃ lists ∈ entry.2.entries, Trigger.FromEntry lists row
  direction : (document.inside ["automation", "status_sync"]).chosen "direction" Direction.both.name =
    .text p.automation.sync.direction.name
  resolution : (document.inside ["automation", "status_sync"]).chosen "conflict_resolution"
    Resolution.keepLast.name = .text p.automation.sync.resolution.name

section

variable {document : Data} {p : Policy}

/-- The names of labels are the keys of their entries. -/
theorem map_fst_of_fromEntry {entries : Entries} {labels : List (String × LabelDefinition)}
    (taken : List.Forall₂ LabelDefinition.FromEntry entries labels) :
    labels.map Prod.fst = (entries.map Prod.fst).filterMap Data.text? := by
  induction taken with
  | nil => rfl
  | @cons entry label entries labels source _ ih =>
      have named : entry.1.text? = some label.1 := congrArg Data.text? source.1
      rw [List.map_cons, List.map_cons, List.filterMap_cons_some named, ih]

theorem entries_ofList_of_fromEntry {value : Data} {labels : List (String × LabelDefinition)} (once : value.OneEach)
    (taken : List.Forall₂ LabelDefinition.FromEntry value.entries labels) :
    (Table.ofList labels).entries = labels := by
  have distinct : (labels.map Prod.fst).Nodup := map_fst_of_fromEntry taken ▸ once
  exact congrArg Table.entries (Table.ofList_entries ⟨labels, distinct⟩)

theorem triggers_of_automationFrom {raw : Data} {a : Automation} (taken : AutomationFrom raw a) :
    ∀ tables ∈ a.inference.overrides, ∀ table ∈ tables.entries,
      ∃ entry ∈ (raw.inside ["label_inference", "triggers"]).entries, entry.1 = .text table.1 ∧
        ∀ row ∈ table.2.entries, ∃ lists ∈ entry.2.entries, Trigger.FromEntry lists row := by
  intro tables given table member
  obtain ⟨found, sources, rfl⟩ := taken.triggers tables given
  obtain ⟨entry, present, named, rows, lists, whole⟩ := exists_of_forall₂ sources (Table.mem_ofList member)
  refine ⟨entry, present, named, fun row among => ?_⟩
  rw [whole] at among
  exact exists_of_forall₂ lists (Table.mem_ofList among)

/-- A policy that was read is well formed, and for each entry of its document it has one label, column, rule or
trigger, in the order of the entries. -/
theorem keeps_entries (read : (ofData document).result = .ok p)
    (once : ∀ c, (document.inside ["labels", Category.name c]).OneEach) : p.WellFormed ∧ p.From document := by
  have automated := automation_of_ofData read
  have labelled (c : Category) : List.Forall₂ LabelDefinition.FromEntry
      (document.inside ["labels", c.name]).entries (p.group c).labels.entries := by
    obtain ⟨labels, taken, same⟩ := labels_of_ofData read c
    -- A table holds one label for each name, and no name comes twice.
    rw [same, entries_ofList_of_fromEntry (once c) taken]
    exact taken
  refine ⟨wellFormed_of_ofData read, ?_⟩
  cases document with
  | map entries =>
      have named := readProject_from (Data.field "project" entries)
      have placed := readBoard_from (Data.field "board" entries)
      obtain ⟨project, -, board, -⟩ := ofEntries_eq_ok_iff.1 read
      rw [project] at named
      rw [board] at placed
      obtain ⟨_, ⟨⟩, kind⟩ := named rfl _ rfl
      obtain ⟨name, columns⟩ := placed rfl
      exact ⟨kind, labelled, name, columns, automated.rules, triggers_of_automationFrom automated,
        automated.direction, automated.resolution⟩
  | _ => cases read

end

/-- A document with two priorities, two columns, two rules and two triggers. -/
def stocked : Data := .record [
  ("project", .record [("type", .text "library")]),
  ("labels", .record [
    ("status", .record [("backlog", .record [("color", .text "ededed"), ("description", .null)])]),
    ("priority", .record [
      ("P1", .record [("color", .text "#E99695"), ("sla_hours", .int 24)]),
      ("P0", .record [("color", .text "d93f0b")])])]),
  ("board", .record [("columns", .list [
    .record [("name", .text "Next"), ("maps_to", .text "backlog")],
    .record [("name", .text "Later"), ("maps_to", .text "backlog")]])]),
  ("automation", .record [
    ("label_inference", .record [("triggers", .record [("priority", .record [("P0", .list [
      .record [("pattern", .text "outage|down"), ("weight", .int 1)],
      .record [("pattern", .text "slow"), ("weight", .float 0.5), ("name", .text "slowness")]])])])]),
    ("priority_escalation", .record [("rules", .list [
      .record [("from_priority", .text "P1"), ("to_priority", .text "P0"), ("after_days", .int 14)],
      .record [("from_priority", .text "P0"), ("to_priority", .text "P1"), ("after_days", .int (-1))]])])])]

theorem stocked_is_read : ∃ p, (ofData stocked).result = .ok p := by
  have done : (ofData stocked).result.map (fun _ => ()) = .ok () := by decide +kernel
  obtain ⟨p, read, -⟩ := map_eq_ok_iff.1 done
  exact ⟨p, read⟩

theorem stocked_keeps_entries : (∀ c, (stocked.inside ["labels", Category.name c]).OneEach) ∧
    ∃ p, (ofData stocked).result = .ok p ∧ p.WellFormed ∧ p.From stocked := by
  have once : ∀ c, (stocked.inside ["labels", Category.name c]).OneEach := by
    intro c
    cases c <;> decide
  obtain ⟨p, read⟩ := stocked_is_read
  exact ⟨once, p, read, keeps_entries read once⟩

end Policy

end Triage
