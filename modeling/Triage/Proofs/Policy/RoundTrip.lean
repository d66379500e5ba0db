import Triage.Policy.Writing
import Triage.Proofs.Policy.WellFormed

/-!
# Policies as data

The data of a well-formed policy reads back as the policy. Whatever was read is well formed, so writing
undoes reading.
-/

namespace Triage

namespace Table

variable {α : Type}

theorem putEntry_of_not_mem {key : String} {value : α} {entries : List (String × α)}
    (absent : key ∉ entries.map Prod.fst) : putEntry key value entries = entries ++ [(key, value)] := by
  induction entries with
  | nil => rfl
  | cons entry rest ih =>
      obtain ⟨k, v⟩ := entry
      rw [List.map_cons, List.mem_cons, not_or] at absent
      have other : k ≠ key := Ne.symm absent.1
      rw [putEntry, if_neg other, ih absent.2, List.cons_append]

/-- The entries of a table make up the table. -/
theorem ofList_entries (t : Table α) : ofList t.entries = t := by
  have behind : ∀ (entries : List (String × α)) (t : Table α),
      ((t.entries ++ entries).map Prod.fst).Nodup →
        (entries.foldl (fun t entry => t.put entry.1 entry.2) t).entries = t.entries ++ entries := by
    intro entries
    induction entries with
    | nil => simp
    | cons entry rest ih =>
        intro t nodup
        have absent : entry.1 ∉ t.entries.map Prod.fst := by
          rw [List.map_append, List.map_cons] at nodup
          intro present
          exact (List.nodup_append.1 nodup).2.2 _ present _ List.mem_cons_self rfl
        have put : (t.put entry.1 entry.2).entries = t.entries ++ [entry] := putEntry_of_not_mem absent
        rw [List.foldl_cons, ih, put, List.append_assoc, List.singleton_append]
        rwa [put, List.append_assoc, List.singleton_append]
  exact ext (behind t.entries empty t.nodup)

theorem toData_eq (f : α → Data) (t : Table α) :
    t.toData f = .map (t.entries.map fun entry => (.text entry.1, f entry.2)) := by
  simp [toData, Data.record]

end Table

namespace Policy

@[simp] theorem liftM_pure {α : Type} (a : α) : (liftM (pure a : Check α) : Bounded α) = pure a := rfl

/-- A text is shown as it is. -/
@[simp] theorem shown_text (s : String) :
    (liftM (shown Data.display (.text s)) : Bounded String) = pure s := rfl

/-! ## Project -/

theorem readProject_projectData (project : Project) :
    readProject (projectData project) = pure (some project) := by
  obtain ⟨kind, language, name, repo⟩ := project
  cases language <;> cases name <;> cases repo <;>
    simp [readProject, projectData, optionalText, Data.record, mapping, Data.field, Data.lookup,
      Data.text?, textField, ProjectKind.ofName?_name]

/-! ## Labels -/

/-- A color does not begin with a number sign. -/
theorem after?_of_isColor {color : String} (holds : isColor color = true) : Text.after? "#" color = none := by
  cases marked : Text.after? "#" color with
  | none => rfl
  | some rest =>
      exfalso
      have whole : color.toList = '#' :: rest.toList := by
        rw [Text.eq_append_of_after? marked, String.toList_append]
        rfl
      rw [isColor, whole, Bool.and_eq_true] at holds
      obtain ⟨six, digits⟩ := holds
      have first : '#' ∈ (if ('#' :: rest.toList).getLast? = some '\n' then ('#' :: rest.toList).dropLast
          else '#' :: rest.toList) := by
        split
        · cases tail : rest.toList with
          | nil => simp_all
          | cons c cs => simp
        · exact List.mem_cons_self
      exact absurd (List.all_eq_true.1 digits _ first) (by decide)

theorem readColor_text (path : String) {color : String} (holds : isColor color = true) :
    readColor path (.text color) = pure (some color) := by
  simp [readColor, after?_of_isColor holds, holds]

theorem readSla_int {c : Category} (path : String) {hours : Nat} (urgent : c = .priority) (positive : 0 < hours) :
    readSla c path (.int hours) = pure (some hours) := by
  have ahead : (0 : Int) < hours := by omega
  simp [readSla, urgent, positive]

theorem readDefinition_toData (c : Category) (path : String) {d : LabelDefinition}
    (formed : d.WellFormed c) : readDefinition c path d.toData = pure (some d) := by
  obtain ⟨color, description, sla⟩ := d
  cases sla with
  | none =>
      simp [readDefinition, LabelDefinition.toData, Data.record, mapping, Data.field, Data.lookup,
        readColor_text _ formed.color, readDescription, readSla]
  | some hours =>
      obtain ⟨urgent, positive⟩ := formed.sla hours rfl
      simp [readDefinition, LabelDefinition.toData, Data.record, mapping, Data.field, Data.lookup,
        readColor_text _ formed.color, readDescription, readSla_int _ urgent positive]

theorem readLabels_entries (c : Category) (path : String) {entries : List (String × LabelDefinition)}
    (formed : ∀ entry ∈ entries, entry.1 ≠ "" ∧ entry.2.WellFormed c) :
    readLabels c path (entries.map fun entry => (.text entry.1, entry.2.toData)) = pure entries := by
  induction entries with
  | nil => rfl
  | cons entry rest ih =>
      obtain ⟨short, d⟩ := entry
      obtain ⟨filled, fine⟩ := formed (short, d) List.mem_cons_self
      have later := ih fun other member => formed other (List.mem_cons_of_mem _ member)
      simp [readLabels, Data.text?, Option.filter, filled, readDefinition_toData c _ fine, later]

theorem readGroup_toData {c : Category} {g : LabelGroup} (formed : g.WellFormed c) :
    readGroup c g.lead (g.labels.toData LabelDefinition.toData) = pure g := by
  have entries := readLabels_entries c ("labels." ++ c.name) formed
  simp [readGroup, Table.toData_eq, mapping, entries, Table.ofList_entries]

theorem readLeads_names (lead : Category → String) (cs : List Category) :
    readLeads (cs.map fun c => (.text c.name, .text (lead c))) = pure (cs.map fun c => (c, lead c)) := by
  induction cs with
  | nil => rfl
  | cons c rest ih => simp [readLeads, Data.text?, Category.ofName?_name, ih]

theorem leadOf_all (lead : Category → String) (c : Category) :
    leadOf (Category.all.map fun c => (c, lead c)) c = lead c := by
  cases c <;> rfl

theorem readTaxonomy_labelsData {t : Taxonomy} (formed : ∀ c, (t.group c).WellFormed c) :
    readTaxonomy (labelsData t) = pure (some t) := by
  obtain ⟨entries, whole, leads, groups⟩ : ∃ entries, labelsData t = .map entries ∧
      Data.field "prefixes" entries =
        .map (Category.all.map fun c => (.text c.name, .text (t.group c).lead)) ∧
      ∀ c, Data.field (Category.name c) entries = (t.group c).labels.toData LabelDefinition.toData := by
    refine ⟨_, rfl, rfl, fun c => ?_⟩
    cases c <;> rfl
  rw [whole, readTaxonomy, readLeading, mapping, liftM_pure, pure_bind]
  simp only [leads, mapping, liftM_pure, pure_bind, Option.getD_some]
  rw [readLeads_names (fun c => (t.group c).lead), pure_bind, pure_bind, readGroups]
  simp only [groups, leadOf_all fun c => (t.group c).lead, readGroup_toData (formed _), pure_bind]
  rfl

/-! ## Board -/

theorem readColumn_record (place : Nat) {column : Column} (named : column.name ≠ "")
    (mapped : column.mapsTo ≠ "") :
    readColumn place (.record [("name", .text column.name), ("maps_to", .text column.mapsTo)]) =
      pure (some column) := by
  simp [readColumn, Data.record, mapping, Data.field, Data.lookup, filledText?, Data.text?, Option.filter,
    named, mapped]

end Policy

/-- Items that each read back are read one after the other. -/
theorem Checked.collect_map {ε α β : Type} {read : Nat → α → Checked ε (Option β)} {write : β → α}
    {items : List β} (each : ∀ b ∈ items, ∀ place, read place (write b) = pure (some b)) (place : Nat) :
    Checked.collect read place (items.map write) = pure items := by
  induction items generalizing place with
  | nil => rfl
  | cons b rest ih =>
      have later := ih (fun other member => each other (List.mem_cons_of_mem _ member)) (place + 1)
      simp [Checked.collect, each b List.mem_cons_self, later]

namespace Policy

/-- A list reads back, an empty one too. -/
theorem listField_list {entries : Entries} {key path : String} {items : List Data}
    (found : Data.field key entries = .list items) : listField entries key path = pure (some items) := by
  cases items with
  | nil => simp [listField, found, Data.truthy]
  | cons item rest => simp [listField, found, Data.truthy]

theorem readBoard_boardData {b : Board} (formed : b.WellFormed) : readBoard (boardData b) = pure b := by
  have columns : Checked.collect readColumn 0 (b.columns.map fun column =>
      .record [("name", .text column.name), ("maps_to", .text column.mapsTo)]) = pure b.columns :=
    Checked.collect_map (fun column member place =>
      readColumn_record place (formed.columns column member).1 (formed.columns column member).2) 0
  have filled : filledText? (.text b.name) = some b.name := by
    simp [filledText?, Data.text?, Option.filter, formed.name]
  rw [readBoard, boardData, Data.record, mapping, pure_bind]
  simp only [List.map_cons, List.map_nil, Data.lookup, if_true, filled, pure_bind]
  rw [listField_list rfl, pure_bind, Option.getD_some, columns, pure_bind]

/-! ## Automation -/

theorem boolField_bool {entries : Entries} {key path : String} {standard b : Bool}
    (found : Data.lookup key entries = some (.bool b)) : boolField entries key path standard = pure b := by
  rw [boolField, found]

theorem readTrigger_toData (path : String) {t : Trigger} (formed : t.WellFormed) :
    readTrigger path t.toData = pure (some t) := by
  obtain ⟨pattern, weight, name⟩ := t
  obtain ⟨filled, ⟨node, readable⟩, positive⟩ := formed
  cases name with
  | none =>
      simp_all [readTrigger, Trigger.toData, Data.record, mapping, Data.field, Data.lookup, filledText?,
        Data.text?, Option.filter, Data.weight?, Data.measure?, Number.toFloat?, textField]
  | some name =>
      simp_all [readTrigger, Trigger.toData, Data.record, mapping, Data.field, Data.lookup, filledText?,
        Data.text?, Option.filter, Data.weight?, Data.measure?, Number.toFloat?, textField]

theorem readTriggers_toData (path : String) {triggers : List Trigger}
    (formed : ∀ t ∈ triggers, t.WellFormed) (place : Nat) :
    readTriggers path place (triggers.map Trigger.toData) = pure triggers := by
  induction triggers generalizing place with
  | nil => rfl
  | cons t rest ih =>
      have later := ih (fun other member => formed other (List.mem_cons_of_mem _ member)) (place + 1)
      simp [readTriggers, readTrigger_toData _ (formed t List.mem_cons_self), later]

theorem readTriggerLists_entries (path : String) {rows : List (String × List Trigger)}
    (formed : ∀ row ∈ rows, ∀ t ∈ row.2, t.WellFormed) :
    readTriggerLists path (rows.map fun row => (.text row.1, .list (row.2.map Trigger.toData))) =
      pure rows := by
  induction rows with
  | nil => rfl
  | cons row rest ih =>
      have later := ih fun other member => formed other (List.mem_cons_of_mem _ member)
      have here := readTriggers_toData (path ++ "." ++ row.1) (formed row List.mem_cons_self) 0
      simp [readTriggerLists, here, later]

theorem readOverrides_entries (path : String) {tables : List (String × TriggerTable)}
    (formed : ∀ table ∈ tables, (∃ c ∈ Category.inferred, c.name = table.1) ∧
      ∀ row ∈ table.2.entries, ∀ t ∈ row.2, t.WellFormed) :
    readOverrides path (tables.map fun table => (.text table.1, .map (table.2.entries.map fun row =>
      (.text row.1, .list (row.2.map Trigger.toData))))) = pure tables := by
  induction tables with
  | nil => rfl
  | cons table rest ih =>
      obtain ⟨name, rows⟩ := table
      have later := ih fun other member => formed other (List.mem_cons_of_mem _ member)
      obtain ⟨⟨c, inferred, rfl⟩, triggers⟩ := formed (name, rows) List.mem_cons_self
      have here := readTriggerLists_entries (path ++ "." ++ c.name) triggers
      simp [readOverrides, Data.text?, Category.ofName?_name, Option.filter, inferred,
        mapping, here, later, Table.ofList_entries]

theorem readInference_inferenceData {s : InferenceSettings} (formed : s.WellFormed) :
    readInference (inferenceData s) = pure s := by
  obtain ⟨enabled, threshold, overrides⟩ := s
  obtain ⟨bounded, tables⟩ := formed
  cases overrides with
  | none =>
      simp_all [readInference, readTables, inferenceData, Data.record, mapping, Data.field, Data.lookup,
        Data.measure?, Option.filter, Number.toFloat?, boolField]
  | some overrides =>
      have here := readOverrides_entries "automation.label_inference.triggers" (tables overrides rfl)
      simp_all [readInference, readTables, inferenceData, Data.record, mapping, Data.field, Data.lookup,
        Data.measure?, Option.filter, Number.toFloat?, boolField, Table.toData_eq, Table.ofList_entries]

theorem readRule_ruleData (path : String) (place : Nat) (rule : EscalationRule) :
    readRule path place (ruleData rule) = pure (some rule) := by
  simp [readRule, ruleData, Data.record, mapping, Data.field, Data.lookup]

theorem readEscalation_record (s : EscalationSettings) :
    readEscalation (.record [("enabled", .bool s.enabled), ("rules", .list (s.rules.map ruleData))]) =
      pure s := by
  have rules : Checked.collect (readRule ("automation.priority_escalation" ++ ".rules")) 0
      (s.rules.map ruleData) = pure s.rules :=
    Checked.collect_map (fun rule _ place => readRule_ruleData _ place rule) 0
  rw [readEscalation, Data.record, mapping, pure_bind]
  simp only [List.map_cons, List.map_nil]
  rw [listField_list rfl, pure_bind, Option.getD_some, rules, pure_bind, boolField_bool rfl, pure_bind]

theorem weight?_ofNumber {n : Number} (positive : n.nonpositive = false) :
    (Data.ofNumber n).weight? = some n := by
  cases n <;> simp [Data.ofNumber, Data.weight?, Data.measure?, Option.filter, positive]

theorem readSlaTable_entries (path : String) {entries : List (String × Number)}
    (positive : ∀ entry ∈ entries, entry.2.nonpositive = false) :
    readSlaTable path (entries.map fun entry => (.text entry.1, Data.ofNumber entry.2)) = pure entries := by
  induction entries with
  | nil => rfl
  | cons entry rest ih =>
      have later := ih fun other member => positive other (List.mem_cons_of_mem _ member)
      simp [readSlaTable, weight?_ofNumber (positive entry List.mem_cons_self), later]

theorem readBlocked_record {s : BlockedSettings} (formed : s.WellFormed) :
    readBlocked (.record [("enabled", .bool s.enabled), ("sla", s.sla.toData Data.ofNumber),
      ("warning_ratio", .float s.warningRatio)]) = pure s := by
  obtain ⟨positive, bounded⟩ := formed
  have sla := readSlaTable_entries "automation.blocked_detection.sla" positive
  simp [readBlocked, Data.record, mapping, Data.field, Data.lookup, Table.toData_eq, sla, Data.measure?,
    Option.filter, bounded, Number.toFloat?, boolField, Table.ofList_entries]

theorem readSync_record (s : SyncSettings) :
    readSync (.record [("enabled", .bool s.enabled), ("direction", .text s.direction.name),
      ("conflict_resolution", .text s.resolution.name)]) = pure s := by
  simp [readSync, Data.record, mapping, Data.lookup, boolField, choiceField, Data.text?,
    Direction.ofName?_name, Resolution.ofName?_name]

theorem readIntake_record (s : IntakeSettings) :
    readIntake (.record [("auto_add_to_backlog", .bool s.toBacklog),
      ("require_type_label", .bool s.requireType), ("require_priority_label", .bool s.requirePriority),
      ("default_priority", .text s.defaultPriority)]) = pure s := by
  simp [readIntake, Data.record, mapping, Data.lookup, boolField]

theorem readAutomation_automationData {a : Automation} (inference : a.inference.WellFormed)
    (blocked : a.blocked.WellFormed) : readAutomation (automationData a) = pure a := by
  obtain ⟨entries, whole, one, two, three, four, five⟩ : ∃ entries, automationData a = .map entries ∧
      Data.field "label_inference" entries = inferenceData a.inference ∧
      Data.field "priority_escalation" entries = .record [("enabled", .bool a.escalation.enabled),
        ("rules", .list (a.escalation.rules.map ruleData))] ∧
      Data.field "blocked_detection" entries = .record [("enabled", .bool a.blocked.enabled),
        ("sla", a.blocked.sla.toData Data.ofNumber), ("warning_ratio", .float a.blocked.warningRatio)] ∧
      Data.field "status_sync" entries = .record [("enabled", .bool a.sync.enabled),
        ("direction", .text a.sync.direction.name),
        ("conflict_resolution", .text a.sync.resolution.name)] ∧
      Data.field "new_issue_defaults" entries = .record [("auto_add_to_backlog", .bool a.intake.toBacklog),
        ("require_type_label", .bool a.intake.requireType),
        ("require_priority_label", .bool a.intake.requirePriority),
        ("default_priority", .text a.intake.defaultPriority)] :=
    ⟨_, rfl, rfl, rfl, rfl, rfl, rfl⟩
  rw [whole, readAutomation, mapping, liftM_pure, pure_bind, Option.getD_some]
  dsimp only
  rw [one, two, three, four, five, readInference_inferenceData inference, readEscalation_record,
    readBlocked_record blocked, readSync_record, readIntake_record]
  rfl

/-! ## The whole policy -/

/-- No label of a written policy is passed over. -/
theorem unknownCategories_labelsData (t : Taxonomy) : unknownCategories (labelsData t) = [] := by
  simp [unknownCategories, labelsData, Data.record, Data.text?, Category.ofName?_name]

/-- The data of a well-formed policy reads back. -/
theorem result_ofData_toData {p : Policy} (formed : p.WellFormed) : (ofData p.toData).result = .ok p := by
  refine ofEntries_eq_ok_iff.2 ⟨?_, ?_, ?_, ?_, ?_, ?_⟩
  · exact readProject_projectData p.project
  · exact readTaxonomy_labelsData formed.labels
  · exact readBoard_boardData formed.board
  · exact readAutomation_automationData formed.inference formed.blocked
  · have none : unknownCategories (labelsData p.labels) = [] := unknownCategories_labelsData p.labels
    exact fun key member => absurd (none ▸ member) List.not_mem_nil
  · simp [unknownSections, sections, Data.text?]

/-- Writing a policy that was read as data and reading that gives the policy again. -/
theorem ofData_toData_of_ofData {raw : Data} {p : Policy} (read : (ofData raw).result = .ok p) :
    (ofData p.toData).result = .ok p :=
  result_ofData_toData (wellFormed_of_ofData read)

/-- A document that leaves much out, with a marked color, an empty lead, a whole number for a weight and
a number for a name. -/
def sketch : Data := .record [
  ("project", .record [("type", .text "library"), ("language", .null)]),
  ("labels", .record [
    ("prefixes", .record [("type", .null)]),
    ("priority", .record [("P1", .record [("color", .text "#d93f0b"), ("sla_hours", .int 8)])])]),
  ("automation", .record [
    ("label_inference", .record [("confidence_threshold", .int 1), ("triggers", .record [("type", .record [
      ("bug", .list [.record [("pattern", .text "crash"), ("weight", .int 3)]])])])]),
    ("blocked_detection", .record [("sla", .map [(.int 1, .float 2.5)])])])]

/-- What the document says. -/
def sketched : Policy where
  project := ⟨.library, none, none, none⟩
  labels := {
    status := ⟨"status/", ∅⟩
    priority := ⟨"priority/", .ofList [("P1", ⟨"d93f0b", "", some 8⟩)]⟩
    type := ⟨"", ∅⟩
    area := ⟨"area/", ∅⟩
    workflow := ⟨"workflow/", ∅⟩ }
  board := .standard
  automation := {
    inference := ⟨true, 1, some (.ofList [("type", .ofList [("bug", [⟨"crash", 3, none⟩])])])⟩
    escalation := ⟨false, []⟩
    blocked := ⟨true, .ofList [("1", .float 2.5)], BlockedSettings.standardRatio⟩
    sync := ⟨false, .both, .keepLast⟩
    intake := .standard }

theorem sketch_reads_back :
    (ofData sketch).result = .ok sketched ∧ (ofData sketched.toData).result = .ok sketched := by
  have read : (ofData sketch).result = .ok sketched := by decide +kernel
  exact ⟨read, ofData_toData_of_ofData read⟩

end Policy

end Triage
