import Triage.Policy.Starter
import Triage.Proofs.Policy.Ensures
import Triage.Proofs.Decimal.Scientific

/-!
# Well-formed policies

A policy that was read, or that a new project starts with, has names and patterns that are not empty,
colors that are colors, and numbers in their ranges.
-/

namespace Triage

/-- The color is one, and only priorities have hours. -/
structure LabelDefinition.WellFormed (c : Category) (d : LabelDefinition) : Prop where
  color : Policy.isColor d.color = true
  sla : ∀ hours ∈ d.slaHours, c = .priority ∧ 0 < hours

/-- Names are not empty and definitions are well formed. -/
def LabelGroup.WellFormed (c : Category) (g : LabelGroup) : Prop :=
  ∀ entry ∈ g.labels.entries, entry.1 ≠ "" ∧ entry.2.WellFormed c

structure Board.WellFormed (b : Board) : Prop where
  name : b.name ≠ ""
  columns : ∀ column ∈ b.columns, column.name ≠ "" ∧ column.mapsTo ≠ ""

/-- The pattern can be read, and the weight is not zero or less. -/
structure Trigger.WellFormed (t : Trigger) : Prop where
  filled : t.pattern ≠ ""
  pattern : ∃ node, Pattern.read {} t.pattern = .ok node
  weight : (Number.float t.weight).nonpositive = false

/-- The threshold lies between zero and one, and only inferred categories have triggers. -/
structure InferenceSettings.WellFormed (s : InferenceSettings) : Prop where
  threshold : (Number.float s.threshold).inUnit = true
  overrides : ∀ tables ∈ s.overrides, ∀ table ∈ tables.entries,
    (∃ c ∈ Category.inferred, c.name = table.1) ∧
      ∀ row ∈ table.2.entries, ∀ t ∈ row.2, t.WellFormed

structure BlockedSettings.WellFormed (s : BlockedSettings) : Prop where
  sla : ∀ entry ∈ s.sla.entries, entry.2.nonpositive = false
  ratio : (Number.float s.warningRatio).belowOne = true

structure Policy.WellFormed (p : Policy) : Prop where
  labels : ∀ c, (p.group c).WellFormed c
  board : p.board.WellFormed
  inference : p.automation.inference.WellFormed
  blocked : p.automation.blocked.WellFormed

namespace Table

variable {α : Type}

theorem mem_putEntry {key : String} {value : α} {entries : List (String × α)} {entry : String × α}
    (member : entry ∈ putEntry key value entries) : entry = (key, value) ∨ entry ∈ entries := by
  induction entries with
  | nil => exact .inl (List.mem_singleton.1 member)
  | cons first rest ih =>
      obtain ⟨k, v⟩ := first
      unfold putEntry at member
      split at member
      · obtain here | later := List.mem_cons.1 member
        · exact .inl here
        · exact .inr (List.mem_cons_of_mem _ later)
      · obtain here | later := List.mem_cons.1 member
        · exact .inr (here ▸ List.mem_cons_self)
        · exact (ih later).imp_right (List.mem_cons_of_mem _)

/-- What is put in one after the other is all that there is. -/
theorem mem_ofList {entries : List (String × α)} {entry : String × α}
    (member : entry ∈ (ofList entries).entries) : entry ∈ entries := by
  have grown : ∀ (items : List (String × α)) (t : Table α),
      entry ∈ (items.foldl (fun t entry => t.put entry.1 entry.2) t).entries →
        entry ∈ t.entries ∨ entry ∈ items := by
    intro items
    induction items with
    | nil => exact fun t => .inl
    | cons first rest ih =>
        intro t later
        obtain before | among := ih (t.put first.1 first.2) later
        · obtain rfl | old := mem_putEntry before
          · exact .inr List.mem_cons_self
          · exact .inl old
        · exact .inr (List.mem_cons_of_mem _ among)
  obtain absent | present := grown entries empty member
  · cases absent
  · exact present

end Table

namespace Policy

/-! ## Labels -/

theorem readColor_ensures (path : String) (raw : Data) :
    (readColor path raw).Ensures fun color => ∀ s ∈ color, isColor s = true := by
  unfold readColor
  split
  · dsimp only
    split
    · rename_i raw holds
      refine .pure ?_
      rintro _ ⟨rfl⟩
      exact holds
    · exact .flawed
  · exact .flawed

theorem readSla_ensures (c : Category) (path : String) (raw : Data) :
    (readSla c path raw).Ensures fun sla => ∀ hours ∈ sla, c = .priority ∧ 0 < hours := by
  unfold readSla
  split
  · exact .pure (by simp)
  · split
    · exact .flawed
    · rename_i allowed
      split
      · split
        · rename_i n positive
          refine .pure ?_
          rintro _ ⟨rfl⟩
          exact ⟨by simpa using allowed, by omega⟩
        · exact .flawed
      · exact .flawed

theorem readDefinition_ensures (c : Category) (path : String) (raw : Data) :
    (readDefinition c path raw).Ensures fun d => ∀ definition ∈ d, definition.WellFormed c := by
  refine .skip fun entries => ?_
  split
  · exact .pure (by simp)
  · refine .bind (readColor_ensures _ _) fun color colored => .skip fun description => ?_
    refine .bind (readSla_ensures c _ _) fun sla bounded => .pure ?_
    intro definition found
    obtain ⟨s, given, rfl⟩ := Option.map_eq_some_iff.1 found
    exact ⟨colored s given, bounded⟩

theorem readLabels_ensures (c : Category) (path : String) (entries : Entries) :
    Bounded.Ensures (readLabels c path entries) fun found =>
      ∀ entry ∈ found, entry.1 ≠ "" ∧ entry.2.WellFormed c := by
  induction entries with
  | nil => exact .pure (by simp)
  | cons entry rest ih =>
      obtain ⟨key, raw⟩ := entry
      unfold readLabels
      dsimp only
      split
      · exact .skip fun shown => .item .flawed ih
      · rename_i short named
        refine .bind (.lift (readDefinition_ensures c _ raw)) fun definition known => .item (.pure ?_) ih
        intro d found
        obtain ⟨inner, given, rfl⟩ := Option.map_eq_some_iff.1 found
        have filled : short ≠ "" := by simpa using (Option.filter_eq_some_iff.1 named).2
        exact ⟨filled, known inner given⟩

theorem readGroup_ensures (c : Category) (lead : String) (raw : Data) :
    Bounded.Ensures (readGroup c lead raw) (LabelGroup.WellFormed c) := by
  refine .skip fun entries => .bind (readLabels_ensures c _ _) fun labels known => .pure ?_
  intro entry member
  exact known entry (Table.mem_ofList member)

theorem readTaxonomy_ensures (raw : Data) :
    Bounded.Ensures (readTaxonomy raw) fun labels => ∀ t ∈ labels, ∀ c, (t.group c).WellFormed c := by
  refine .skip fun leading => ?_
  unfold readGroups
  split
  · exact .pure (by simp)
  · refine .bind (readGroup_ensures _ _ _) fun status known₁ => .bind (readGroup_ensures _ _ _) fun
      priority known₂ => .bind (readGroup_ensures _ _ _) fun type known₃ =>
      .bind (readGroup_ensures _ _ _) fun area known₄ => .bind (readGroup_ensures _ _ _) fun
      workflow known₅ => .pure ?_
    rintro _ ⟨rfl⟩ c
    cases c with
    | status => exact known₁
    | priority => exact known₂
    | type => exact known₃
    | area => exact known₄
    | workflow => exact known₅

/-! ## Board -/

theorem filledText?_filled {value : Data} {s : String} (found : filledText? value = some s) : s ≠ "" := by
  simpa using (Option.filter_eq_some_iff.1 found).2

theorem readColumn_ensures (place : Nat) (raw : Data) :
    (readColumn place raw).Ensures fun column => ∀ c ∈ column, c.name ≠ "" ∧ c.mapsTo ≠ "" := by
  refine .skip fun entries => ?_
  split
  · exact .pure (by simp)
  · split
    · exact .flawed
    · rename_i name named
      split
      · exact .flawed
      · rename_i mapsTo mapped
        refine .pure ?_
        rintro _ ⟨rfl⟩
        exact ⟨filledText?_filled named, filledText?_filled mapped⟩

theorem readBoard_ensures (raw : Data) : (readBoard raw).Ensures Board.WellFormed := by
  refine .skip fun entries => ?_
  split
  · exact .pure ⟨by decide, by simp [Board.standard]⟩
  · rename_i entries
    have behind (name : String) (filled : name ≠ "") : Checked.Ensures (do
        let items ← listField entries "columns" "board"
        let columns ← Checked.collect readColumn 0 (items.getD [])
        pure (⟨name, columns⟩ : Board)) Board.WellFormed :=
      .skip fun items => .bind (Checked.collect_ensures readColumn_ensures _ _) fun columns known =>
        .pure ⟨filled, known⟩
    dsimp only
    split
    · exact behind _ (by decide)
    · split
      · rename_i value name named
        exact behind name (filledText?_filled named)
      · exact .bind .flawed behind

/-! ## Numbers -/

theorem inUnit_of_toFloat? {n : Number} {x : Float} (bounded : n.inUnit = true) (near : n.toFloat? = some x) :
    (Number.float x).inUnit = true := by
  cases n with
  | float y =>
      cases near
      exact bounded
  | int n =>
      have few : n = 0 ∨ n = 1 := by
        simp only [Number.inUnit, Bool.and_eq_true, decide_eq_true_eq] at bounded
        omega
      obtain rfl | rfl := few
      · have zero : Decimal.ofInt? 0 = some 0 := by decide +kernel
        cases zero.symm.trans near
        decide
      · have one : Decimal.ofInt? 1 = some 1 := by decide +kernel
        cases one.symm.trans near
        decide

theorem belowOne_of_toFloat? {n : Number} {x : Float} (bounded : n.belowOne = true)
    (near : n.toFloat? = some x) : (Number.float x).belowOne = true := by
  cases n with
  | float y =>
      cases near
      exact bounded
  | int n =>
      obtain rfl : n = 0 := by
        simp only [Number.belowOne, Bool.and_eq_true, decide_eq_true_eq] at bounded
        omega
      have zero : Decimal.ofInt? 0 = some 0 := by decide +kernel
      cases zero.symm.trans near
      decide

theorem positive_of_toFloat? {n : Number} {x : Float} (positive : n.nonpositive = false)
    (near : n.toFloat? = some x) : (Number.float x).nonpositive = false := by
  cases n with
  | float y =>
      cases near
      exact positive
  | int n =>
      have above : 0 < n := by simpa [Number.nonpositive] using positive
      obtain ⟨k, rfl⟩ := Int.eq_ofNat_of_zero_le above.le
      exact decide_eq_false (Decimal.positive_of_ofInt? (by exact_mod_cast above) near)

/-! ## Automation -/

theorem readTrigger_ensures (path : String) (raw : Data) :
    Bounded.Ensures (readTrigger path raw) fun trigger => ∀ t ∈ trigger, t.WellFormed := by
  refine .skip fun entries => ?_
  split
  · exact .pure (by simp)
  · split
    · exact .flawed
    · rename_i pattern named
      split
      · unfold ofPatternFault
        split
        · exact .throw
        · exact .throw
        · exact .throw
        · exact .flawed
      · rename_i node readable
        split
        · exact .flawed
        · rename_i weight weighs
          split
          · exact .throw
          · rename_i x near
            refine .skip fun name => .pure ?_
            rintro _ ⟨rfl⟩
            have positive : weight.nonpositive = false := by
              simpa using (Option.filter_eq_some_iff.1 weighs).2
            exact ⟨filledText?_filled named, ⟨node, readable⟩, positive_of_toFloat? positive near⟩

theorem readTriggers_ensures (path : String) (place : Nat) (items : List Data) :
    Bounded.Ensures (readTriggers path place items) fun found => ∀ t ∈ found, t.WellFormed := by
  induction items generalizing place with
  | nil => exact .pure (by simp)
  | cons raw rest ih => exact .item (readTrigger_ensures _ raw) (ih (place + 1))

theorem readTriggerLists_ensures (path : String) (entries : Entries) :
    Bounded.Ensures (readTriggerLists path entries) fun found =>
      ∀ row ∈ found, ∀ t ∈ row.2, t.WellFormed := by
  induction entries with
  | nil => exact .pure (by simp)
  | cons entry rest ih =>
      obtain ⟨key, raw⟩ := entry
      refine .skip fun short => ?_
      dsimp only
      split
      · refine .bind (readTriggers_ensures _ _ _) fun triggers known => .item (.pure ?_) ih
        rintro _ ⟨rfl⟩
        exact known
      · exact .item .flawed ih

theorem readOverrides_ensures (path : String) (entries : Entries) :
    Bounded.Ensures (readOverrides path entries) fun found => ∀ table ∈ found,
      (∃ c ∈ Category.inferred, c.name = table.1) ∧
        ∀ row ∈ table.2.entries, ∀ t ∈ row.2, t.WellFormed := by
  induction entries with
  | nil => exact .pure (by simp)
  | cons entry rest ih =>
      obtain ⟨key, raw⟩ := entry
      refine .skip fun shown => ?_
      dsimp only
      split
      · exact .item .flawed ih
      · rename_i c allowed
        refine .skip fun lists => .bind (readTriggerLists_ensures _ _) fun rows known =>
          .item (.pure ?_) ih
        rintro _ ⟨rfl⟩
        have inferred : c ∈ Category.inferred := by
          simpa using (Option.filter_eq_some_iff.1 allowed).2
        exact ⟨⟨c, inferred, rfl⟩, fun row member => known row (Table.mem_ofList member)⟩

theorem readTables_ensures (path : String) (raw : Data) :
    Bounded.Ensures (readTables path raw) fun overrides => ∀ tables ∈ overrides, ∀ table ∈ tables.entries,
      (∃ c ∈ Category.inferred, c.name = table.1) ∧
        ∀ row ∈ table.2.entries, ∀ t ∈ row.2, t.WellFormed := by
  refine .skip fun overrides => ?_
  cases overrides with
  | none => exact .pure (by simp)
  | some entries =>
      refine .bind (readOverrides_ensures _ _) fun tables known => .pure ?_
      rintro _ ⟨rfl⟩ table member
      exact known table (Table.mem_ofList member)

theorem readInference_ensures (raw : Data) :
    Bounded.Ensures (readInference raw) InferenceSettings.WellFormed := by
  refine .skip fun entries => ?_
  split
  · exact .pure ⟨by decide, by simp⟩
  · rename_i entries
    have behind (threshold : Float) (bounded : (Number.float threshold).inUnit = true) : Bounded.Ensures (do
        let enabled ← boolField entries "enabled" "automation.label_inference" true
        let tables ← readTables ("automation.label_inference" ++ ".triggers") (Data.field "triggers" entries)
        return (⟨enabled, threshold, tables⟩ : InferenceSettings)) InferenceSettings.WellFormed :=
      .skip fun enabled => .bind (readTables_ensures _ _) fun tables known => .pure ⟨bounded, known⟩
    dsimp only
    split
    · exact behind _ (by decide)
    · split
      · rename_i x found
        obtain ⟨n, measured, near⟩ := Option.bind_eq_some_iff.1 found
        exact behind _ (inUnit_of_toFloat? (Option.filter_eq_some_iff.1 measured).2 near)
      · exact .bind .flawed behind

theorem readSlaTable_ensures (path : String) (entries : Entries) :
    Bounded.Ensures (readSlaTable path entries) fun found => ∀ entry ∈ found, entry.2.nonpositive = false := by
  induction entries with
  | nil => exact .pure (by simp)
  | cons entry rest ih =>
      obtain ⟨key, value⟩ := entry
      refine .skip fun priority => ?_
      dsimp only
      split
      · rename_i hours weighs
        refine .item (.pure ?_) ih
        rintro _ ⟨rfl⟩
        simpa using (Option.filter_eq_some_iff.1 weighs).2
      · exact .item .flawed ih

theorem readBlocked_ensures (raw : Data) :
    Bounded.Ensures (readBlocked raw) BlockedSettings.WellFormed := by
  refine .skip fun entries => ?_
  split
  · exact .pure ⟨by simp [EmptyCollection.emptyCollection, Table.empty], by decide⟩
  · refine .skip fun rawSla => .bind (readSlaTable_ensures _ _) fun sla positive => ?_
    have behind (ratio : Float) (bounded : (Number.float ratio).belowOne = true) (entries : Entries) :
        Bounded.Ensures (do
          let enabled ← boolField entries "enabled" "automation.blocked_detection" true
          return (⟨enabled, .ofList sla, ratio⟩ : BlockedSettings)) BlockedSettings.WellFormed :=
      .skip fun enabled => .pure ⟨fun entry member => positive entry (Table.mem_ofList member), bounded⟩
    split
    · exact behind _ (by decide) _
    · split
      · rename_i value x found
        obtain ⟨n, measured, near⟩ := Option.bind_eq_some_iff.1 found
        exact behind x (belowOne_of_toFloat? (Option.filter_eq_some_iff.1 measured).2 near) _
      · exact .bind .flawed fun ratio bounded => behind ratio bounded _

theorem readAutomation_ensures (raw : Data) : Bounded.Ensures (readAutomation raw) fun a =>
    a.inference.WellFormed ∧ a.blocked.WellFormed := by
  refine .skip fun entries => .bind (readInference_ensures _) fun inference known =>
    .skip fun escalation => .bind (readBlocked_ensures _) fun blocked bounded =>
    .skip fun sync => .skip fun intake => .pure ⟨known, bounded⟩

/-! ## The whole policy -/

theorem result_shown_eq_ok_iff {form : Data → String} {value : Data} {s : String} :
    shown form value = .ok s ↔ value.isWritable = true ∧ form value = s := by
  unfold shown Data.shown
  cases value.isWritable <;> simp [Except.mapError]

/-- Keys are noted as far as they may be written. -/
theorem result_noteAll_eq_ok_iff {level : Level} {text : String → String} {keys : List Data} {done : Unit} :
    (noteAll level text keys).result = .ok done ↔ ∀ key ∈ keys, key.isWritable = true := by
  induction keys with
  | nil => simp [noteAll]
  | cons key rest ih =>
      simp only [noteAll, Run.result_bind_eq_ok, Run.result_liftM, result_shown_eq_ok_iff, Run.result_note,
        List.forall_mem_cons, ← ih]
      constructor
      · rintro ⟨s, ⟨writable, -⟩, -, -, later⟩
        exact ⟨writable, later⟩
      · rintro ⟨writable, later⟩
        exact ⟨_, ⟨writable, rfl⟩, (), trivial, later⟩

theorem result_gather_eq_ok_iff {α : Type} {x : Bounded α} {c : Check α} :
    (gather x).result = .ok c ↔ x.run = ⟨.ok c.value, c.problems⟩ := by
  obtain ⟨outcome, problems⟩ := x
  obtain ⟨value, found⟩ := c
  cases outcome with
  | error fault => simp [gather, ExceptT.run, bind]
  | ok a => simp [gather, ExceptT.run, bind, pure]

/-- Sections are what each of the four readers gives, as long as what is passed over can be noted. -/
theorem result_readSections_eq_ok_iff {entries : Entries} {s : Sections} :
    (readSections entries).result = .ok s ↔
      (readProject (Data.field "project" entries)).run = ⟨.ok s.project.value, s.project.problems⟩ ∧
      (readTaxonomy (Data.field "labels" entries)).run = ⟨.ok s.labels.value, s.labels.problems⟩ ∧
      readBoard (Data.field "board" entries) = s.board ∧
      (readAutomation (Data.field "automation" entries)).run =
        ⟨.ok s.automation.value, s.automation.problems⟩ ∧
      (∀ key ∈ unknownCategories (Data.field "labels" entries), key.isWritable = true) ∧
      ∀ key ∈ unknownSections entries, key.isWritable = true := by
  simp only [readSections, Run.result_bind_eq_ok, result_gather_eq_ok_iff, result_noteAll_eq_ok_iff, readTaxonomy,
    Bounded.run_bind]
  -- the labels are read in two steps, with the notes on unknown categories in between
  constructor
  · rintro ⟨project, known, leading, led, -, written, labels, labelled, automation, automated, -, noted, same⟩
    cases same
    refine ⟨known, ?_, rfl, automated, written, noted⟩
    rw [led]
    exact congrArg (fun y : Check _ => (⟨y.value, leading.problems ++ y.problems⟩ : Check _)) labelled
  · rintro ⟨known, labelled, placed, automated, written, noted⟩
    cases led : (readLeading (Data.field "labels" entries)).run.value with
    | error stop =>
        rw [led] at labelled
        cases labelled
    | ok leading =>
        rw [led] at labelled
        injection labelled with value problems
        refine ⟨s.project, known, ⟨leading, _⟩, congrArg (Checked.mk · _) led, (), written,
          ⟨s.labels.value, _⟩, congrArg (Checked.mk · _) value, s.automation, automated, (), noted, ?_⟩
        obtain ⟨project, ⟨taxonomy, found⟩, board, automation⟩ := s
        cases problems
        cases placed
        rfl

/-- A policy is read exactly where its four sections are read without problems and what is passed over can
be noted. -/
theorem ofEntries_eq_ok_iff {entries : Entries} {p : Policy} : (ofEntries entries).result = .ok p ↔
    readProject (Data.field "project" entries) = pure (some p.project) ∧
    readTaxonomy (Data.field "labels" entries) = pure (some p.labels) ∧
    readBoard (Data.field "board" entries) = pure p.board ∧
    readAutomation (Data.field "automation" entries) = pure p.automation ∧
    (∀ key ∈ unknownCategories (Data.field "labels" entries), key.isWritable = true) ∧
    ∀ key ∈ unknownSections entries, key.isWritable = true := by
  have clean {α : Type} (x : Bounded α) (a : α) : x = pure a ↔ x.run = ⟨.ok a, []⟩ := Iff.rfl
  simp only [ofEntries, Run.result_bind_eq_ok, Run.result_liftM, result_readSections_eq_ok_iff]
  constructor
  · rintro ⟨s, ⟨known, labelled, placed, automated, written, noted⟩, gathered⟩
    unfold Sections.policy at gathered
    split at gathered
    · rename_i none named grouped
      simp only [Sections.problems, List.append_eq_nil_iff] at none
      obtain ⟨⟨⟨one, two⟩, three⟩, four⟩ := none
      cases gathered
      refine ⟨?_, ?_, ?_, ?_, written, noted⟩
      · rw [clean, known, named, one]
      · rw [clean, labelled, grouped, two]
      · exact Checked.eq_pure_iff.2 ⟨congrArg Checked.value placed, (congrArg Checked.problems placed).trans three⟩
      · rw [clean, automated, four]
    · cases gathered
  · rintro ⟨known, labelled, placed, automated, written, noted⟩
    exact ⟨⟨pure (some p.project), pure (some p.labels), pure p.board, pure p.automation⟩,
      ⟨known, labelled, placed, automated, written, noted⟩, rfl⟩

theorem wellFormed_of_ofData {raw : Data} {p : Policy} (read : (ofData raw).result = .ok p) :
    p.WellFormed := by
  cases raw with
  | map entries =>
      obtain ⟨-, labels, board, automation, -⟩ := ofEntries_eq_ok_iff.1 read
      have labelled := readTaxonomy_ensures (Data.field "labels" entries)
      have placed := readBoard_ensures (Data.field "board" entries)
      have automated := readAutomation_ensures (Data.field "automation" entries)
      rw [labels] at labelled
      rw [board] at placed
      rw [automation] at automated
      obtain ⟨inference, blocked⟩ := automated rfl p.automation rfl
      exact ⟨labelled rfl _ rfl p.labels rfl, placed rfl, inference, blocked⟩
  | _ => cases read

/-! ## Starter policies -/

theorem wellFormed_starter (project : Project) : (starter project).WellFormed := by
  have labels : ∀ c, ∀ entry ∈ (Starter.labels project.kind c).entries, entry.1 ≠ "" ∧
      isColor entry.2.color = true ∧ ∀ hours ∈ entry.2.slaHours, c = .priority ∧ 0 < hours := by
    intro c
    cases project.kind <;> cases c <;> decide
  have columns : ∀ column ∈ Starter.columns, column.name ≠ "" ∧ column.mapsTo ≠ "" := by decide
  have threshold : (Number.float 0).inUnit = true := by decide
  have ratio : (Number.float BlockedSettings.standardRatio).belowOne = true := by decide
  have name : Board.standardName ≠ "" := by decide
  refine ⟨fun c entry member => ?_, ⟨name, columns⟩, ⟨threshold, by simp [starter]⟩, ?_⟩
  · rw [group, starter, Taxonomy.group_ofGroups] at member
    obtain ⟨filled, color, sla⟩ := labels c entry member
    exact ⟨filled, color, sla⟩
  · exact ⟨by simp [starter, EmptyCollection.emptyCollection, Table.empty], ratio⟩

end Policy

end Triage
