import Triage.Proofs.Policy.RoundTrip
import Triage.Proofs.Yaml.RoundTrip

/-!
# Policies as text

The data of a policy is a mapping of a few levels with distinct keys, so its document reads back as the data
where the texts of the policy are kept and its names fit in front of their colons.
-/

namespace Triage

open Yaml
open Data (isWritable)

/-! ## The levels of the document -/

namespace Yaml.Outline

variable {n m : Nat} {d : Data} {s : String} {b : Bool} {i : Int} {x : Float}

theorem mono (outline : Outline n d) (deeper : n ≤ m) : Outline m d := by
  induction outline generalizing m with
  | scalar alone => exact .scalar alone
  | list each ih =>
      obtain ⟨m, rfl⟩ := Nat.exists_eq_add_one.2 (Nat.zero_lt_of_lt deeper)
      exact .list fun item member => ih item member (Nat.le_of_succ_le_succ deeper)
  | record distinct each ih =>
      obtain ⟨m, rfl⟩ := Nat.exists_eq_add_one.2 (Nat.zero_lt_of_lt deeper)
      exact .record distinct fun field member => ih field member (Nat.le_of_succ_le_succ deeper)

@[simp] theorem text : Outline n (.text s) := .scalar rfl

@[simp] theorem bool : Outline n (.bool b) := .scalar rfl

@[simp] theorem int : Outline n (.int i) := .scalar rfl

@[simp] theorem float : Outline n (.float x) := .scalar rfl

theorem table {α : Type} {f : α → Data} {t : Table α} (each : ∀ entry ∈ t.entries, Outline n (f entry.2)) :
    Outline (n + 1) (t.toData f) := by
  refine .record ?_ ?_
  · rw [List.map_map]
    exact t.nodup
  · intro field member
    obtain ⟨entry, among, rfl⟩ := List.mem_map.1 member
    exact each entry among

theorem items {α : Type} {f : α → Data} {as : List α} (each : ∀ a ∈ as, Outline n (f a)) :
    Outline (n + 1) (.list (as.map f)) := by
  refine .list fun item member => ?_
  obtain ⟨a, among, rfl⟩ := List.mem_map.1 member
  exact each a among

end Yaml.Outline

namespace Policy

theorem outline_definition (d : LabelDefinition) : Outline 1 d.toData := by
  obtain ⟨color, description, sla⟩ := d
  refine .record ?_ ?_
  · cases sla <;> simp
  · cases sla <;> simp

theorem outline_projectData (project : Project) : Outline 1 (projectData project) := by
  obtain ⟨kind, language, name, repo⟩ := project
  refine .record ?_ ?_
  · cases language <;> cases name <;> cases repo <;> simp [optionalText]
  · cases language <;> cases name <;> cases repo <;> simp [optionalText]

theorem outline_labelsData (t : Taxonomy) : Outline 3 (labelsData t) := by
  refine .record (by simp [Category.all, Category.name]) fun field member => ?_
  obtain rfl | member := List.mem_cons.1 member
  · refine .record (by simp [Category.all, Category.name]) fun field member => ?_
    obtain ⟨c, -, rfl⟩ := List.mem_map.1 member
    exact .scalar rfl
  · obtain ⟨c, -, rfl⟩ := List.mem_map.1 member
    exact .table fun entry _ => outline_definition entry.2

theorem outline_boardData (b : Board) : Outline 3 (boardData b) := by
  have columns : Outline 2 (.list (b.columns.map fun column =>
      .record [("name", .text column.name), ("maps_to", .text column.mapsTo)])) :=
    .items fun column _ => .record (by simp) (by simp)
  exact .record (by simp) (by simp [columns])

theorem outline_trigger (t : Trigger) : Outline 1 t.toData := by
  obtain ⟨pattern, weight, name⟩ := t
  refine .record ?_ ?_
  · cases name <;> simp
  · cases name <;> simp

theorem outline_inferenceData (s : InferenceSettings) : Outline 5 (inferenceData s) := by
  obtain ⟨enabled, threshold, overrides⟩ := s
  have tables : ∀ tables : Table TriggerTable,
      Outline 4 (tables.toData (Table.toData fun triggers => .list (triggers.map Trigger.toData))) := fun _ =>
    .table fun _ _ => .table fun _ _ => .items fun t _ => outline_trigger t
  refine .record ?_ ?_
  · cases overrides <;> simp
  · cases overrides <;> simp [tables]

theorem outline_automationData (a : Automation) : Outline 6 (automationData a) := by
  have rules : Outline 2 (.list (a.escalation.rules.map ruleData)) :=
    .items fun rule _ => .record (by simp) (by simp)
  have sla : Outline 1 (a.blocked.sla.toData Data.ofNumber) :=
    .table fun entry _ => .scalar (by cases entry.2 <;> rfl)
  have escalation : Outline 3 (.record [("enabled", .bool a.escalation.enabled),
      ("rules", .list (a.escalation.rules.map ruleData))]) :=
    .record (by simp) (by simp [rules])
  have blocked : Outline 2 (.record [("enabled", .bool a.blocked.enabled),
      ("sla", a.blocked.sla.toData Data.ofNumber), ("warning_ratio", .float a.blocked.warningRatio)]) :=
    .record (by simp) (by simp [sla])
  have sync : Outline 1 (.record [("enabled", .bool a.sync.enabled), ("direction", .text a.sync.direction.name),
      ("conflict_resolution", .text a.sync.resolution.name)]) :=
    .record (by simp) (by simp)
  have intake : Outline 1 (.record [("auto_add_to_backlog", .bool a.intake.toBacklog),
      ("require_type_label", .bool a.intake.requireType), ("require_priority_label", .bool a.intake.requirePriority),
      ("default_priority", .text a.intake.defaultPriority)]) :=
    .record (by simp) (by simp)
  refine .record (by simp) ?_
  simp only [List.forall_mem_cons]
  exact ⟨outline_inferenceData a.inference, escalation.mono (by decide), blocked.mono (by decide),
    sync.mono (by decide), intake.mono (by decide), by simp⟩

/-! ## The document -/

/-- The document of a policy is written if its whole numbers may be. -/
theorem toText_eq {p : Policy} (writable : isWritable p.toData = true) : p.toText = .ok (layout p.toData) := by
  rw [toText, write, if_pos writable]
  rfl

theorem outline_sections (p : Policy) : ∀ field ∈ [("project", projectData p.project), ("labels", labelsData p.labels),
    ("board", boardData p.board), ("automation", automationData p.automation)], Outline 6 field.2 := by
  simp only [List.forall_mem_cons]
  exact ⟨(outline_projectData p.project).mono (by decide), (outline_labelsData p.labels).mono (by decide),
    (outline_boardData p.board).mono (by decide), outline_automationData p.automation, by simp⟩

/-- The document of a policy is read as its data, up to texts that are not kept. -/
theorem read_layout_toData {p : Policy} (writable : isWritable p.toData = true) (fits : keysFit p.toData = true) :
    read (layout p.toData) = .ok (settle p.toData) :=
  read_layout (by simp) (outline_sections p) (by decide) writable fits

theorem settle_toData {p : Policy} (kept : keepsTexts p.toData = true) : settle p.toData = p.toData :=
  settle_eq_self (.record (by simp) (outline_sections p)) kept

/-- What a well-formed policy is written as reads back as the policy. -/
theorem result_ofText_layout {p : Policy} (formed : p.WellFormed) (writable : isWritable p.toData = true)
    (fits : keysFit p.toData = true) (kept : keepsTexts p.toData = true) :
    (ofText (layout p.toData)).result = .ok p := by
  rw [ofText, read_layout_toData writable fits, settle_toData kept]
  exact result_ofData_toData formed

/-- A well-formed policy with short keys has a document. -/
theorem exists_document {p : Policy} (formed : p.WellFormed) (writable : isWritable p.toData = true)
    (short : shortKeys p.toData = true) (kept : keepsTexts p.toData = true) :
    ∃ document, (ofText document).result = .ok p :=
  ⟨_, result_ofText_layout formed writable (keysFit_of_shortKeys _ short) kept⟩

theorem wellFormed_of_ofText {s : String} {p : Policy} (found : (ofText s).result = .ok p) : p.WellFormed := by
  rw [ofText] at found
  split at found
  · exact wellFormed_of_ofData found
  · cases found
  · cases found

/-- Writing a policy that was read, or that a new project starts with, and reading its document gives the policy
again, as long as no text in single quotes holds U+0085, every key on one line stays pending up to its colon, and
whole numbers may be written. -/
theorem ofText_toText {p : Policy} (origin : (∃ s, (ofText s).result = .ok p) ∨ ∃ project, p = starter project)
    (writable : isWritable p.toData = true) (fits : keysFit p.toData = true) (kept : keepsTexts p.toData = true) :
    ∃ document, p.toText = .ok document ∧ (ofText document).result = .ok p := by
  have formed : p.WellFormed := by
    obtain ⟨s, found⟩ | ⟨project, rfl⟩ := origin
    · exact wellFormed_of_ofText found
    · exact wellFormed_starter project
  exact ⟨_, toText_eq writable, result_ofText_layout formed writable fits kept⟩

/-- A project whose texts need quotes of both kinds: for a mark, for line breaks, and for a tab beside U+0085. -/
def quaint : Project := ⟨.backend, some "c++: 'modern'", some "two\nlines\u2028# of text", some "\x85\t~"⟩

theorem quaint_reads_back : (∃ project, starter quaint = starter project) ∧ isWritable (starter quaint).toData = true ∧
    keysFit (starter quaint).toData = true ∧ keepsTexts (starter quaint).toData = true ∧
    ∃ document, (starter quaint).toText = .ok document ∧ (ofText document).result = .ok (starter quaint) := by
  have writable : isWritable (starter quaint).toData = true := by decide +kernel
  have fits : keysFit (starter quaint).toData = true := keysFit_of_shortKeys _ (by decide +kernel)
  have kept : keepsTexts (starter quaint).toData = true := by decide +kernel
  exact ⟨⟨quaint, rfl⟩, writable, fits, kept, ofText_toText (.inr ⟨quaint, rfl⟩) writable fits kept⟩

/-- A project whose language holds U+0085 between two letters. -/
def lined : Project := ⟨.backend, some "a\x85b", none, none⟩

/-- U+0085 in single quotes is read as a blank. -/
theorem settle_lined : settle (projectData lined) = projectData ⟨.backend, some "a b", none, none⟩ := by
  have kind : settleText "backend" = "backend" := settleText_eq_self_iff.2 (by decide)
  have language : settleText "a\x85b" = "a b" := by decide +kernel
  have keys : ∀ field ∈ [("type", Data.text "backend"), ("language", Data.text "a\x85b")],
      keepsText field.1 = true := by
    simp only [List.forall_mem_cons]
    exact ⟨by decide, by decide, by simp⟩
  refine (settle_record (by simp) keys).trans ?_
  simp only [List.map_cons, List.map_nil, settle_text, kind, language]
  rfl

/-- A new policy for the project is written, but what is read back is another one. -/
theorem lined_is_lost : ∃ document, (starter lined).toText = .ok document ∧
    (ofText document).result ≠ .ok (starter lined) := by
  have writable : isWritable (starter lined).toData = true := by decide +kernel
  have fits : keysFit (starter lined).toData = true := keysFit_of_shortKeys _ (by decide +kernel)
  have names : ∀ field ∈ [("project", projectData lined), ("labels", labelsData (starter lined).labels),
      ("board", boardData (starter lined).board), ("automation", automationData (starter lined).automation)],
      keepsText field.1 = true := by
    simp only [List.forall_mem_cons]
    exact ⟨by decide, by decide, by decide, by decide, by simp⟩
  refine ⟨_, toText_eq writable, fun found => ?_⟩
  have settled : settle (starter lined).toData = _ := settle_record (by simp) names
  rw [ofText, read_layout_toData writable fits, settled] at found
  have project := (ofEntries_eq_ok_iff.1 found).1
  have field : readProject (settle (projectData lined)) = pure (some lined) := project
  rw [settle_lined, readProject_projectData] at field
  have same : (Except.ok (some ⟨.backend, some "a b", none, none⟩) : Except Fault (Option Project)) = .ok (some lined) :=
    congrArg (fun x : Bounded (Option Project) => x.run.value) field
  exact absurd (Except.ok.inj same) (by decide)

end Policy

end Triage
