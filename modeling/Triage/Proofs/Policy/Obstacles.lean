import Triage.Proofs.Policy.WellFormed

/-!
# What stops the reading of a policy

A reader stops at a fault that is no problem of the document: at a number that has too many digits to be
shown, at a weight that is too large, and at some patterns. For each reader the obstacles in its part of the
document are named; it stops exactly where there is one. Where there is none, the document gives a policy or
its problems, at least one.
-/

namespace Triage

/-- Stops exactly where there are obstacles, and at one of them. -/
structure Stops {α : Type} (x : Except Fault α) (obstacle : Fault → Prop) : Prop where
  obstacle_of_error : ∀ stop, x = .error stop → obstacle stop
  error_of_obstacle : ∀ stop, obstacle stop → ∃ first, x = .error first

namespace Stops

variable {α β : Type} {x : Except Fault α} {f : α → Except Fault β} {obstacle further : Fault → Prop}

theorem ok {a : α} : Stops (.ok a : Except Fault α) fun _ => False := by
  constructor
  · rintro stop ⟨⟩
  · rintro stop ⟨⟩

theorem error {fault : Fault} : Stops (.error fault : Except Fault α) (· = fault) := by
  constructor
  · rintro stop ⟨rfl⟩
    rfl
  · rintro stop rfl
    exact ⟨stop, rfl⟩

theorem congr (stops : Stops x obstacle) (same : ∀ stop, obstacle stop ↔ further stop) : Stops x further := by
  constructor
  · intro stop stopped
    exact (same stop).1 (stops.obstacle_of_error stop stopped)
  · intro stop found
    exact stops.error_of_obstacle stop ((same stop).2 found)

theorem bind (first : Stops x obstacle) (later : ∀ a, x = .ok a → Stops (f a) further) :
    Stops (x >>= f) fun stop => obstacle stop ∨ further stop := by
  cases x with
  | error fault =>
      constructor
      · rintro stop ⟨rfl⟩
        exact .inl (first.obstacle_of_error fault rfl)
      · intro stop _
        exact ⟨fault, rfl⟩
  | ok a =>
      constructor
      · intro stop stopped
        exact .inr ((later a rfl).obstacle_of_error stop stopped)
      · rintro stop (found | found)
        · obtain ⟨fault, ⟨⟩⟩ := first.error_of_obstacle stop found
        · exact (later a rfl).error_of_obstacle stop found

/-- What follows does not stop. -/
theorem andThen {g : α → β} (first : Stops x obstacle) : Stops (x >>= fun a => .ok (g a)) obstacle :=
  (first.bind fun _ _ => ok).congr fun _ => by simp

/-- Either there is an obstacle and the computation stops at one, or there is none and it does not stop. -/
theorem dichotomy (stops : Stops x obstacle) :
    (∃ stop, obstacle stop ∧ x = .error stop) ∨ (∀ stop, ¬obstacle stop) ∧ ∃ a, x = .ok a := by
  cases given : x with
  | error stop => exact .inl ⟨stop, stops.obstacle_of_error stop given, rfl⟩
  | ok a =>
      refine .inr ⟨fun stop found => ?_, a, rfl⟩
      obtain ⟨fault, stopped⟩ := stops.error_of_obstacle stop found
      cases given.symm.trans stopped

end Stops

namespace Data

/-- The entries of a mapping; any other value has none. -/
def entries? : Data → Option (List (Data × Data))
  | .map entries => some entries
  | _ => none

def entries (value : Data) : List (Data × Data) := value.entries?.getD []

def keys (value : Data) : List Data := value.entries.map Prod.fst

/-- What stands at the end of a way of keys through mappings. -/
def inside (value : Data) : List String → Data
  | [] => value
  | key :: rest => (field key value.entries).inside rest

/-- A text is written as it is. -/
theorem text?_eq_none {key : Data} (long : key.isWritable = false) : key.text? = none := by
  cases key with
  | text s => cases long
  | _ => rfl

end Data

namespace Policy

/-! ## Outcomes of readers -/

namespace Bounded

variable {α β : Type} {obstacle further : Fault → Prop}

/-- The value that is reached, problems apart. -/
def outcome (x : Bounded α) : Except Fault α := x.run.value

theorem outcome_bind (x : Bounded α) (f : α → Bounded β) :
    outcome (x >>= f) = outcome x >>= fun a => outcome (f a) := by
  rw [outcome, run_bind, outcome]
  cases x.run.value with
  | error fault => rfl
  | ok a => rfl

/-- A step that collects problems passes its value on. -/
theorem outcome_check_bind (x : Check α) (f : α → Bounded β) :
    outcome (liftM x >>= f) = outcome (f x.value) := outcome_bind ..

/-- The reader stops exactly where there are obstacles. -/
abbrev StopsAt (x : Bounded α) (obstacle : Fault → Prop) : Prop := Stops x.outcome obstacle

namespace StopsAt

theorem pure {a : α} : StopsAt (Pure.pure a) fun _ => False := Stops.ok

theorem flawed {problem : Problem} {a : α} : StopsAt (Bounded.flawed problem a) fun _ => False := Stops.ok

theorem throw {fault : Fault} : StopsAt (MonadExcept.throw fault : Bounded α) (· = fault) := Stops.error

theorem bind {x : Bounded α} {f : α → Bounded β} (first : StopsAt x obstacle)
    (later : ∀ a, x.outcome = .ok a → StopsAt (f a) further) :
    StopsAt (x >>= f) fun stop => obstacle stop ∨ further stop := by
  rw [StopsAt, outcome_bind]
  exact Stops.bind first later

theorem map {x : Bounded α} {g : α → β} (first : StopsAt x obstacle) :
    StopsAt (x >>= fun a => Pure.pure (g a)) obstacle := by
  rw [StopsAt, outcome_bind]
  exact first.andThen

theorem check {x : Check α} {f : α → Bounded β} (later : StopsAt (f x.value) obstacle) :
    StopsAt (liftM x >>= f) obstacle := by
  rw [StopsAt, outcome_check_bind]
  exact later

theorem flawed_bind {problem : Problem} {a : α} {f : α → Bounded β} (later : StopsAt (f a) obstacle) :
    StopsAt (Bounded.flawed problem a >>= f) obstacle := check later

theorem pure_bind {a : α} {f : α → Bounded β} (later : StopsAt (f a) obstacle) :
    StopsAt (Pure.pure a >>= f) obstacle := check (x := Pure.pure a) later

/-- An item in front of others. -/
theorem item {first : Bounded (Option α)} {others : Bounded (List α)} (here : StopsAt first obstacle)
    (there : StopsAt others further) :
    StopsAt (do
      let a ← first
      let rest ← others
      Pure.pure (a.toList ++ rest)) fun stop => obstacle stop ∨ further stop :=
  here.bind fun _ _ => there.map

end StopsAt

end Bounded

@[simp] theorem value_mapping (path : String) (required : Bool) (raw : Data) :
    (mapping path required raw).value = raw.entries? := by
  cases raw with
  | null => cases required <;> rfl
  | _ => rfl

/-! ## Obstacles in the parts of a document -/

/-- A value that would have to be shown, and cannot be. -/
def Unwritable (value : Data) (stop : Fault) : Prop :=
  value.isWritable = false ∧ stop = .integer .tooLongToWrite

/-- A key of a mapping that would have to be shown, and cannot be. -/
def LongKey (raw : Data) (stop : Fault) : Prop := ∃ key ∈ raw.keys, Unwritable key stop

/-- Why a pattern stops the reading; all others that are refused are problems. -/
def patternStop? : Pattern.Fault → Option Fault
  | .count => some .tooLarge
  | .longCount digits => some (.integer (.tooLong digits))
  | .kinds => some .patternKinds
  | _ => none

/-- What the reading of a trigger stops at. -/
inductive TriggerObstacle (trigger : Data) : Fault → Prop
  | pattern {text : String} {fault : Pattern.Fault} {stop : Fault}
      (filled : filledText? (trigger.inside ["pattern"]) = some text)
      (refused : Pattern.read {} text = .error fault) (stops : patternStop? fault = some stop) :
      TriggerObstacle trigger stop
  | weight {text : String} {node : Pattern.Node} {weight : Number}
      (filled : filledText? (trigger.inside ["pattern"]) = some text)
      (read : Pattern.read {} text = .ok node)
      (weighs : (trigger.inside ["weight"]).weight? = some weight) (large : weight.toFloat? = none) :
      TriggerObstacle trigger .tooLarge

/-- What the reading of the trigger lists of a category stops at. -/
def ListObstacle (lists : Data) (stop : Fault) : Prop :=
  ∃ entry ∈ lists.entries, Unwritable entry.1 stop ∨
    ∃ items, entry.2 = .list items ∧ ∃ item ∈ items, TriggerObstacle item stop

theorem not_unwritable {value : Data} {s : String} (text : value.text? = some s) (stop : Fault) :
    ¬Unwritable value stop := by
  rintro ⟨long, -⟩
  cases (Data.text?_eq_none long).symm.trans text

theorem not_unwritable_null (stop : Fault) : ¬Unwritable .null stop := by
  rintro ⟨⟨⟩, -⟩

theorem not_unwritable_of_bind {α : Type} {value : Data} {f : String → Option α} {a : α}
    (found : value.text?.bind f = some a) (stop : Fault) : ¬Unwritable value stop := by
  obtain ⟨s, text, -⟩ := Option.bind_eq_some_iff.1 found
  exact not_unwritable text stop

theorem not_longKey_nil (stop : Fault) : ¬LongKey (.map []) stop := by
  rintro ⟨key, member, -⟩
  cases member

theorem not_longKey_null (stop : Fault) : ¬LongKey .null stop := not_longKey_nil stop

theorem longKey_cons {key raw : Data} {rest : Entries} {stop : Fault} :
    LongKey (.map ((key, raw) :: rest)) stop ↔ Unwritable key stop ∨ LongKey (.map rest) stop := by
  simp [LongKey, Data.keys, Data.entries, Data.entries?]

theorem stops_shown (form : Data → String) (value : Data) : Stops (shown form value) (Unwritable value) := by
  unfold shown Data.shown
  cases writable : value.isWritable with
  | false => exact Stops.error.congr fun stop => by simp [Unwritable, writable]
  | true => exact Stops.ok.congr fun stop => by simp [Unwritable, writable]

theorem stops_shown_bind {β : Type} {form : Data → String} {value : Data} {f : String → Bounded β}
    {further : Fault → Prop} (later : ∀ s, Bounded.StopsAt (f s) further) :
    Bounded.StopsAt (liftM (shown form value) >>= f) fun stop => Unwritable value stop ∨ further stop := by
  rw [Bounded.StopsAt, Bounded.outcome_bind]
  exact (stops_shown form value).bind fun s _ => later s

theorem stops_choiceField {α : Type} (names : List String) (ofName? : String → Option α) (standard : α)
    (entries : Entries) (key path : String) :
    Bounded.StopsAt (choiceField names ofName? standard entries key path)
      (Unwritable (Data.field key entries)) := by
  unfold choiceField Data.field
  cases Data.lookup key entries with
  | none => exact Stops.ok.congr fun stop => by simp [not_unwritable_null stop]
  | some value =>
      dsimp only [Option.getD_some]
      split
      · rename_i a chosen
        exact Stops.ok.congr fun stop => by simp [not_unwritable_of_bind chosen stop]
      · exact (stops_shown_bind fun _ => .flawed).congr fun stop => by simp

/-! ## Project and labels -/

theorem stops_readProject (raw : Data) :
    Bounded.StopsAt (readProject raw) (Unwritable (raw.inside ["type"])) := by
  refine .check ?_
  rw [value_mapping, Data.inside, Data.inside, Data.entries]
  cases raw.entries? with
  | none => exact Stops.ok.congr fun stop => by simp [Data.field, Data.lookup, not_unwritable_null stop]
  | some entries =>
      dsimp only [Option.getD_some]
      split
      · rename_i absent
        exact Stops.ok.congr fun stop => by simp [absent, not_unwritable_null stop]
      · split
        · exact (stops_shown_bind fun _ => .flawed).congr fun stop => by simp
        · rename_i kind chosen
          exact Stops.ok.congr fun stop => by simp [not_unwritable_of_bind chosen stop]

theorem stops_readLabels (c : Category) (path : String) (entries : Entries) :
    Bounded.StopsAt (readLabels c path entries) (LongKey (.map entries)) := by
  induction entries with
  | nil => exact Stops.ok.congr fun stop => by simp [not_longKey_nil stop]
  | cons entry rest ih =>
      obtain ⟨key, raw⟩ := entry
      unfold readLabels
      dsimp only
      split
      · exact (stops_shown_bind fun _ => .flawed_bind ih.map).congr fun stop => longKey_cons.symm
      · rename_i short named
        have text : key.text? = some short := (Option.filter_eq_some_iff.1 named).1
        have others : Bounded.StopsAt (readLabels c path rest) (LongKey (.map ((key, raw) :: rest))) :=
          ih.congr fun stop => by simp [longKey_cons, not_unwritable text stop]
        exact .check (.pure_bind others.map)

theorem stops_readGroup (c : Category) (lead : String) (raw : Data) :
    Bounded.StopsAt (readGroup c lead raw) (LongKey raw) := by
  refine .check ?_
  rw [value_mapping]
  exact (stops_readLabels c _ raw.entries).map

theorem stops_readLeads (entries : Entries) :
    Bounded.StopsAt (readLeads entries) (LongKey (.map entries)) := by
  induction entries with
  | nil => exact Stops.ok.congr fun stop => by simp [not_longKey_nil stop]
  | cons entry rest ih =>
      obtain ⟨key, raw⟩ := entry
      unfold readLeads
      dsimp only
      split
      · exact (stops_shown_bind fun _ => .flawed_bind ih.map).congr fun stop => longKey_cons.symm
      · rename_i c known
        have others : Bounded.StopsAt (readLeads rest) (LongKey (.map ((key, raw) :: rest))) :=
          ih.congr fun stop => by simp [longKey_cons, not_unwritable_of_bind known stop]
        split
        · exact .pure_bind others.map
        · exact .pure_bind others.map
        · exact .flawed_bind others.map

theorem stops_readLeading (raw : Data) :
    Bounded.StopsAt (readLeading raw) (LongKey (raw.inside ["prefixes"])) := by
  refine .check ?_
  rw [value_mapping, Data.inside, Data.inside, Data.entries]
  cases raw.entries? with
  | none => exact Stops.ok.congr fun stop => by simp [Data.field, Data.lookup, not_longKey_null stop]
  | some entries =>
      refine .check ?_
      rw [value_mapping]
      exact (stops_readLeads _).map

/-- The entries that are led are those of the labels. -/
theorem entries_of_readLeading {raw : Data} {leading : Option (Entries × List (Category × String))}
    (read : (readLeading raw).outcome = .ok leading) : leading.map Prod.fst = raw.entries? := by
  rw [readLeading, Bounded.outcome_check_bind, value_mapping] at read
  cases given : raw.entries? with
  | none =>
      rw [given] at read
      cases read
      rfl
  | some entries =>
      rw [given] at read
      dsimp only at read
      rw [Bounded.outcome_check_bind, value_mapping, Bounded.outcome_bind] at read
      cases led : (readLeads ((Data.field "prefixes" entries).entries?.getD [])).outcome with
      | error fault =>
          rw [led] at read
          cases read
      | ok leads =>
          rw [led] at read
          cases read
          rfl

theorem stops_readGroups (leading : Option (Entries × List (Category × String))) :
    Bounded.StopsAt (readGroups leading) fun stop =>
      ∃ c : Category, LongKey (Data.field c.name ((leading.map Prod.fst).getD [])) stop := by
  cases leading with
  | none => exact Stops.ok.congr fun stop => by simp [Data.field, Data.lookup, not_longKey_null stop]
  | some leading =>
      obtain ⟨entries, leads⟩ := leading
      have group (c : Category) := stops_readGroup c (leadOf leads c) (Data.field c.name entries)
      refine ((group .status).bind fun _ _ => (group .priority).bind fun _ _ => (group .type).bind fun _ _ =>
        (group .area).bind fun _ _ => (group .workflow).map).congr fun stop => ?_
      constructor
      · rintro (found | found | found | found | found)
        · exact ⟨.status, found⟩
        · exact ⟨.priority, found⟩
        · exact ⟨.type, found⟩
        · exact ⟨.area, found⟩
        · exact ⟨.workflow, found⟩
      · rintro ⟨c, found⟩
        cases c with
        | status => exact .inl found
        | priority => exact .inr (.inl found)
        | type => exact .inr (.inr (.inl found))
        | area => exact .inr (.inr (.inr (.inl found)))
        | workflow => exact .inr (.inr (.inr (.inr found)))

/-! ## Automation -/

theorem stops_ofPatternFault (path : String) (fault : Pattern.Fault) :
    Bounded.StopsAt (ofPatternFault path fault) fun stop => patternStop? fault = some stop := by
  cases fault with
  | count => exact Bounded.StopsAt.throw.congr fun stop => by simp [patternStop?, eq_comm]
  | longCount digits => exact Bounded.StopsAt.throw.congr fun stop => by simp [patternStop?, eq_comm]
  | kinds => exact Bounded.StopsAt.throw.congr fun stop => by simp [patternStop?, eq_comm]
  | _ => exact Bounded.StopsAt.flawed.congr fun stop => by simp [patternStop?]

/-- The obstacles of a trigger, by what is read of its pattern and its weight. -/
theorem triggerObstacle_iff {entries : Entries} {pattern : String} {stop : Fault}
    (filled : filledText? (Data.field "pattern" entries) = some pattern) :
    TriggerObstacle (.map entries) stop ↔
      (∃ fault, Pattern.read {} pattern = .error fault ∧ patternStop? fault = some stop) ∨
      (∃ node weight, Pattern.read {} pattern = .ok node ∧
        (Data.field "weight" entries).weight? = some weight ∧ weight.toFloat? = none ∧ stop = .tooLarge) := by
  constructor
  · intro obstacle
    cases obstacle with
    | pattern filled' refused stops =>
        obtain rfl := Option.some_injective _ (filled.symm.trans filled')
        exact .inl ⟨_, refused, stops⟩
    | weight filled' read weighs large =>
        obtain rfl := Option.some_injective _ (filled.symm.trans filled')
        exact .inr ⟨_, _, read, weighs, large, rfl⟩
  · rintro (⟨fault, refused, stops⟩ | ⟨node, weight, read, weighs, large, rfl⟩)
    · exact .pattern filled refused stops
    · exact .weight filled read weighs large

theorem not_triggerObstacle {raw : Data} (bare : filledText? (raw.inside ["pattern"]) = none) (stop : Fault) :
    ¬TriggerObstacle raw stop := by
  intro obstacle
  cases obstacle with
  | pattern filled => cases bare.symm.trans filled
  | weight filled => cases bare.symm.trans filled

theorem stops_readTrigger (path : String) (raw : Data) :
    Bounded.StopsAt (readTrigger path raw) (TriggerObstacle raw) := by
  refine .check ?_
  rw [value_mapping]
  cases given : raw.entries? with
  | none =>
      have bare : filledText? (raw.inside ["pattern"]) = none := by
        rw [Data.inside, Data.inside, Data.entries, given]
        rfl
      exact Stops.ok.congr fun stop => by simp [not_triggerObstacle bare stop]
  | some entries =>
      obtain rfl : raw = .map entries := by
        cases raw with
        | map => cases given; rfl
        | _ => cases given
      dsimp only
      split
      · rename_i bare
        have free : ∀ stop, ¬TriggerObstacle (.map entries) stop := not_triggerObstacle bare
        exact Bounded.StopsAt.flawed.congr fun stop => by simp [free stop]
      · rename_i pattern filled
        split
        · rename_i fault refused
          exact (stops_ofPatternFault _ fault).congr fun stop => by simp [triggerObstacle_iff filled, refused]
        · rename_i node read
          split
          · rename_i weightless
            exact Bounded.StopsAt.flawed.congr fun stop => by simp [triggerObstacle_iff filled, read, weightless]
          · rename_i weight weighs
            split
            · rename_i large
              exact Bounded.StopsAt.throw.congr fun stop => by
                simp [triggerObstacle_iff filled, read, weighs, large]
            · rename_i x near
              exact .check (Stops.ok.congr fun stop => by simp [triggerObstacle_iff filled, read, weighs, near])

theorem stops_readTriggers (path : String) (place : Nat) (items : List Data) :
    Bounded.StopsAt (readTriggers path place items) fun stop => ∃ item ∈ items, TriggerObstacle item stop := by
  induction items generalizing place with
  | nil => exact Stops.ok.congr fun stop => by simp
  | cons raw rest ih =>
      exact (Bounded.StopsAt.item (stops_readTrigger _ raw) (ih (place + 1))).congr fun stop => by simp

theorem stops_readTriggerLists (path : String) (entries : Entries) :
    Bounded.StopsAt (readTriggerLists path entries) (ListObstacle (.map entries)) := by
  induction entries with
  | nil => exact Stops.ok.congr fun stop => by simp [ListObstacle, Data.entries, Data.entries?]
  | cons entry rest ih =>
      obtain ⟨key, raw⟩ := entry
      have cons (stop : Fault) : ListObstacle (.map ((key, raw) :: rest)) stop ↔
          Unwritable key stop ∨ (∃ items, raw = .list items ∧ ∃ item ∈ items, TriggerObstacle item stop) ∨
            ListObstacle (.map rest) stop := by
        simp [ListObstacle, Data.entries, Data.entries?, or_assoc]
      unfold readTriggerLists
      refine Stops.congr (stops_shown_bind fun short => ?_) fun stop => (cons stop).symm
      dsimp only
      split
      · rename_i items
        refine Stops.congr (Bounded.StopsAt.bind (stops_readTriggers _ 0 items) fun triggers _ =>
          .pure_bind ih.map) fun stop => ?_
        simp
      · rename_i other
        have free (stop : Fault) : ¬∃ items, raw = .list items ∧ ∃ item ∈ items, TriggerObstacle item stop := by
          rintro ⟨items, same, -⟩
          exact other items same
        exact .flawed_bind (ih.map.congr fun stop => (or_iff_right (free stop)).symm)

/-- What the reading of the trigger tables stops at: the keys of all of them are shown, but only the tables of
the inferred categories are read. -/
def TableObstacle (tables : Data) (stop : Fault) : Prop :=
  ∃ entry ∈ tables.entries, Unwritable entry.1 stop ∨
    (∃ c ∈ Category.inferred, entry.1 = .text c.name) ∧ ListObstacle entry.2 stop

theorem inferred_iff {key : Data} : (∃ c ∈ Category.inferred, key = .text c.name) ↔
    ((key.text?.bind Category.ofName?).filter Category.inferred.contains).isSome = true := by
  constructor
  · rintro ⟨c, inferred, rfl⟩
    simp [Data.text?, Category.ofName?_name, inferred]
  · intro known
    obtain ⟨c, kept⟩ := Option.isSome_iff_exists.1 known
    obtain ⟨found, inferred⟩ := Option.filter_eq_some_iff.1 kept
    obtain ⟨s, text, named⟩ := Option.bind_eq_some_iff.1 found
    have name : c.name = s := by simpa using List.find?_some named
    refine ⟨c, by simpa using inferred, ?_⟩
    cases key with
    | text s' =>
        cases text
        rw [name]
    | _ => cases text

theorem stops_readOverrides (path : String) (entries : Entries) :
    Bounded.StopsAt (readOverrides path entries) (TableObstacle (.map entries)) := by
  induction entries with
  | nil => exact Stops.ok.congr fun stop => by simp [TableObstacle, Data.entries, Data.entries?]
  | cons entry rest ih =>
      obtain ⟨key, raw⟩ := entry
      have cons (stop : Fault) : TableObstacle (.map ((key, raw) :: rest)) stop ↔
          Unwritable key stop ∨ ((∃ c ∈ Category.inferred, key = .text c.name) ∧ ListObstacle raw stop) ∨
            TableObstacle (.map rest) stop := by
        simp [TableObstacle, Data.entries, Data.entries?, or_assoc]
      unfold readOverrides
      refine Stops.congr (stops_shown_bind fun short => ?_) fun stop => (cons stop).symm
      dsimp only
      split
      · rename_i other
        exact .flawed_bind (ih.map.congr fun stop => by simp [inferred_iff, other])
      · rename_i c known
        refine .check ?_
        rw [value_mapping]
        refine Stops.congr (Bounded.StopsAt.bind (stops_readTriggerLists _ raw.entries) fun lists _ =>
          .pure_bind ih.map) fun stop => ?_
        simp [inferred_iff, known, ListObstacle, Data.entries, Data.entries?]

theorem stops_readTables (path : String) (raw : Data) :
    Bounded.StopsAt (readTables path raw) (TableObstacle raw) := by
  refine .check ?_
  rw [value_mapping]
  cases given : raw.entries? with
  | none => exact Stops.ok.congr fun stop => by simp [TableObstacle, Data.entries, given]
  | some overrides =>
      refine (stops_readOverrides _ overrides).map.congr fun stop => ?_
      rw [TableObstacle, TableObstacle, Data.entries, Data.entries, given]
      rfl

theorem stops_readInference (raw : Data) :
    Bounded.StopsAt (readInference raw) (TableObstacle (raw.inside ["triggers"])) := by
  refine .check ?_
  rw [value_mapping, Data.inside, Data.inside, Data.entries]
  cases raw.entries? with
  | none => exact Stops.ok.congr fun stop => by simp [Data.field, Data.lookup, TableObstacle, Data.entries, Data.entries?]
  | some entries =>
      -- whatever the threshold is, the tables are read behind it
      have behind (threshold : Float) : Bounded.StopsAt (do
          let enabled ← boolField entries "enabled" "automation.label_inference" true
          let tables ← readTables ("automation.label_inference" ++ ".triggers") (Data.field "triggers" entries)
          return (⟨enabled, threshold, tables⟩ : InferenceSettings)) (TableObstacle (Data.field "triggers" entries)) :=
        .check (stops_readTables _ _).map
      dsimp only [Option.getD_some]
      split
      · exact behind 0
      · split
        · exact behind _
        · exact .flawed_bind (behind 0)

theorem stops_readSlaTable (path : String) (entries : Entries) :
    Bounded.StopsAt (readSlaTable path entries) (LongKey (.map entries)) := by
  induction entries with
  | nil => exact Stops.ok.congr fun stop => by simp [not_longKey_nil stop]
  | cons entry rest ih =>
      obtain ⟨key, value⟩ := entry
      unfold readSlaTable
      refine Stops.congr (stops_shown_bind fun priority => ?_) fun stop => longKey_cons.symm
      dsimp only
      split
      · exact .pure_bind ih.map
      · exact .flawed_bind ih.map

theorem stops_readBlocked (raw : Data) :
    Bounded.StopsAt (readBlocked raw) (LongKey (raw.inside ["sla"])) := by
  refine .check ?_
  rw [value_mapping, Data.inside, Data.inside, Data.entries]
  cases raw.entries? with
  | none => exact Stops.ok.congr fun stop => by simp [Data.field, Data.lookup, not_longKey_null stop]
  | some entries =>
      refine .check ?_
      rw [value_mapping]
      refine Stops.congr (Bounded.StopsAt.bind (stops_readSlaTable _ (Data.field "sla" entries).entries)
        fun sla _ => ?_) fun stop => Iff.of_eq (or_false _)
      split
      · exact .pure_bind (.check .pure)
      · split
        · exact .pure_bind (.check .pure)
        · exact .flawed_bind (.check .pure)

theorem stops_readSync (raw : Data) : Bounded.StopsAt (readSync raw) fun stop =>
    Unwritable (raw.inside ["direction"]) stop ∨ Unwritable (raw.inside ["conflict_resolution"]) stop := by
  refine .check ?_
  simp only [value_mapping, Data.inside, Data.entries]
  cases raw.entries? with
  | none => exact Stops.ok.congr fun stop => by simp [Data.field, Data.lookup, not_unwritable_null stop]
  | some entries =>
      exact .check ((stops_choiceField ..).bind fun _ _ => (stops_choiceField ..).map)

/-- What the reading of the automation stops at. -/
def AutomationObstacle (raw : Data) (stop : Fault) : Prop :=
  TableObstacle (raw.inside ["label_inference", "triggers"]) stop ∨
  LongKey (raw.inside ["blocked_detection", "sla"]) stop ∨
  Unwritable (raw.inside ["status_sync", "direction"]) stop ∨
  Unwritable (raw.inside ["status_sync", "conflict_resolution"]) stop

theorem stops_readAutomation (raw : Data) : Bounded.StopsAt (readAutomation raw) (AutomationObstacle raw) := by
  refine .check ?_
  rw [value_mapping]
  refine (stops_readInference _).bind fun _ _ => .check ((stops_readBlocked _).bind fun _ _ => ?_)
  refine Stops.congr (Bounded.StopsAt.bind (stops_readSync _) fun _ _ => .check .pure) fun stop => ?_
  simp [Data.inside, Data.entries]

/-! ## The whole document -/

theorem stops_noteAll (level : Level) (text : String → String) (keys : List Data) :
    Stops (noteAll level text keys).result fun stop => ∃ key ∈ keys, Unwritable key stop := by
  induction keys with
  | nil => exact Stops.ok.congr fun stop => by simp
  | cons key rest ih =>
      rw [noteAll, Run.result_bind, Run.result_liftM]
      have others (s : String) : Stops (Run.note level .policy (text s) >>= fun _ => noteAll level text rest).result
          fun stop => ∃ key ∈ rest, Unwritable key stop := by
        rw [Run.result_bind, Run.result_note]
        exact ih
      exact ((stops_shown Data.display key).bind fun s _ => others s).congr fun stop => by simp

/-- A key that cannot be written is passed over, so it is noted. -/
theorem longKey_unknownCategories {raw : Data} {stop : Fault} :
    (∃ key ∈ unknownCategories raw, Unwritable key stop) ↔ LongKey raw stop := by
  have kept (key : Data) (long : Unwritable key stop) : key.text? = none := Data.text?_eq_none long.1
  cases raw with
  | map entries =>
      constructor
      · rintro ⟨key, member, long⟩
        exact ⟨key, (List.mem_filter.1 member).1, long⟩
      · rintro ⟨key, member, long⟩
        exact ⟨key, List.mem_filter.2 ⟨member, by simp [kept key long]⟩, long⟩
  | _ => simp [unknownCategories, LongKey, Data.keys, Data.entries, Data.entries?]

theorem longKey_unknownSections {entries : Entries} {stop : Fault} :
    (∃ key ∈ unknownSections entries, Unwritable key stop) ↔ LongKey (.map entries) stop := by
  constructor
  · rintro ⟨key, member, long⟩
    exact ⟨key, (List.mem_filter.1 member).1, long⟩
  · rintro ⟨key, member, long⟩
    exact ⟨key, List.mem_filter.2 ⟨member, by simp [Data.text?_eq_none long.1]⟩, long⟩

theorem result_gather {α : Type} (x : Bounded α) :
    (gather x).result = x.outcome >>= fun value => .ok ⟨value, x.run.problems⟩ := by
  rw [gather, Run.result_bind]
  rfl

/-- Gathering a section stops where its reader does. -/
theorem stops_gather {α : Type} {x : Bounded α} {obstacle : Fault → Prop} (stops : x.StopsAt obstacle) :
    Stops (gather x).result obstacle := by
  rw [result_gather]
  exact stops.andThen

/-- What the reading of a document stops at. -/
inductive Obstacle (document : Data) (stop : Fault) : Prop
  /-- A kind of project that is none. -/
  | kind (long : Unwritable (document.inside ["project", "type"]) stop)
  /-- A key of the prefixes. -/
  | lead (long : LongKey (document.inside ["labels", "prefixes"]) stop)
  /-- A key of the labels. -/
  | category (long : LongKey (document.inside ["labels"]) stop)
  /-- A key of the labels of one category. -/
  | label (c : Category) (long : LongKey (document.inside ["labels", c.name]) stop)
  /-- Something in the automation. -/
  | automation (stops : AutomationObstacle (document.inside ["automation"]) stop)
  /-- A key of the whole document. -/
  | section_ (long : LongKey document stop)

/-- Only the entries of a document count. -/
theorem Obstacle.of_entries {document other : Data} {stop : Fault} (same : document.entries = other.entries)
    (obstacle : Obstacle document stop) : Obstacle other stop := by
  have inside (key : String) (rest : List String) : document.inside (key :: rest) = other.inside (key :: rest) := by
    rw [Data.inside, Data.inside, same]
  have keys (long : LongKey document stop) : LongKey other stop := by
    rwa [LongKey, Data.keys, ← same]
  cases obstacle with
  | kind long => exact .kind (inside .. ▸ long)
  | lead long => exact .lead (inside .. ▸ long)
  | category long => exact .category (inside .. ▸ long)
  | label c long => exact .label c (inside .. ▸ long)
  | automation stops => exact .automation (inside .. ▸ stops)
  | section_ long => exact .section_ (keys long)

theorem stops_readSections (entries : Entries) :
    Stops (readSections entries).result (Obstacle (.map entries)) := by
  -- the groups are read behind the leads, so their obstacles are told from the leads that were read
  have labels (leading : Check (Option (Entries × List (Category × String))))
      (read : (gather (readLeading (Data.field "labels" entries))).result = .ok leading) :
      Bounded.StopsAt (readGroups leading.value) fun stop =>
        ∃ c : Category, LongKey (Data.inside (.map entries) ["labels", c.name]) stop := by
    have value : (readLeading (Data.field "labels" entries)).outcome = .ok leading.value :=
      congrArg Checked.value (result_gather_eq_ok_iff.1 read)
    refine (stops_readGroups leading.value).congr fun stop => ?_
    rw [entries_of_readLeading value]
    rfl
  simp only [readSections, Run.result_bind]
  refine ((stops_gather (stops_readProject _)).bind fun project _ =>
    (stops_gather (stops_readLeading _)).bind fun leading read => (stops_noteAll ..).bind fun _ _ =>
    (stops_gather (labels leading read)).bind fun _ _ => (stops_gather (stops_readAutomation _)).bind fun _ _ =>
    (stops_noteAll ..).andThen).congr fun stop => ?_
  rw [longKey_unknownCategories, longKey_unknownSections]
  constructor
  · rintro (long | long | long | ⟨c, long⟩ | stops | long)
    · exact .kind long
    · exact .lead long
    · exact .category long
    · exact .label c long
    · exact .automation stops
    · exact .section_ long
  · intro obstacle
    cases obstacle with
    | kind long => exact .inl long
    | lead long => exact .inr (.inl long)
    | category long => exact .inr (.inr (.inl long))
    | label c long => exact .inr (.inr (.inr (.inl ⟨c, long⟩)))
    | automation stops => exact .inr (.inr (.inr (.inr (.inl stops))))
    | section_ long => exact .inr (.inr (.inr (.inr (.inr long))))

/-! ## The answer -/

/-- Reading stops at values that are wrong or too large, never at the problems of a policy. -/
theorem classOf_obstacle {document : Data} {stop : Fault} (obstacle : Obstacle document stop) :
    stop.classOf = .value ∨ stop.classOf = .magnitude := by
  have shown {value : Data} (long : Unwritable value stop) : stop.classOf = .value := by rw [long.2, Fault.classOf]
  have key {raw : Data} : LongKey raw stop → stop.classOf = .value := fun ⟨_, _, long⟩ => shown long
  have trigger {raw : Data} (stops : TriggerObstacle raw stop) : stop.classOf = .value ∨ stop.classOf = .magnitude := by
    cases stops with
    | @pattern text fault _ filled refused stops =>
        cases fault with
        | count => cases stops; exact .inr rfl
        | longCount => cases stops; exact .inl rfl
        | kinds => cases stops; exact .inl rfl
        | _ => cases stops
    | weight => exact .inr rfl
  cases obstacle with
  | kind long => exact .inl (shown long)
  | lead long => exact .inl (key long)
  | category long => exact .inl (key long)
  | label c long => exact .inl (key long)
  | section_ long => exact .inl (key long)
  | automation stops =>
      obtain ⟨tables, -, long | ⟨-, lists, -, long | ⟨items, -, item, -, stops⟩⟩⟩ | long | long | long := stops
      · exact .inl (shown long)
      · exact .inl (shown long)
      · exact trigger stops
      · exact .inl (key long)
      · exact .inl (shown long)
      · exact .inl (shown long)

theorem obstacle_ne_policy {document : Data} {stop : Fault} (obstacle : Obstacle document stop)
    (problems : List Problem) : stop ≠ .policy problems := by
  rintro rfl
  rcases classOf_obstacle obstacle with wrong | wrong
  · exact FaultClass.noConfusion wrong
  · exact FaultClass.noConfusion wrong

theorem mapping_ensures (path : String) (raw : Data) : (mapping path true raw).Ensures (·.isSome = true) := by
  cases raw with
  | map entries => exact .pure rfl
  | _ => exact .flawed

/-- A project is missing only where there is a problem. -/
theorem readProject_found (raw : Data) : Bounded.Ensures (readProject raw) (·.isSome = true) := by
  refine .bind (.lift (mapping_ensures _ raw)) fun entries present => ?_
  cases entries with
  | none => cases present
  | some entries =>
      dsimp only
      split
      · exact .flawed
      · split
        · exact .skip fun literal => .flawed
        · exact .skip fun language => .skip fun name => .skip fun repo => .pure rfl

/-- Labels are missing only where there is a problem. -/
theorem readTaxonomy_found (raw : Data) : Bounded.Ensures (readTaxonomy raw) (·.isSome = true) := by
  have leading : Bounded.Ensures (readLeading raw) (·.isSome = true) := by
    refine .bind (.lift (mapping_ensures _ raw)) fun entries present => ?_
    cases entries with
    | none => cases present
    | some entries => exact .skip fun leads => .skip fun rest => .pure rfl
  refine .bind leading fun leading present => ?_
  cases leading with
  | none => cases present
  | some leading => exact .skip fun _ => .skip fun _ => .skip fun _ => .skip fun _ => .skip fun _ => .pure rfl

/-- Sections that were read are a policy where they have no problems, and the problems of one otherwise. -/
theorem policy_of_readSections {entries : Entries} {s : Sections} (read : (readSections entries).result = .ok s) :
    (s.problems = [] ∧ ∃ project labels, s.project.value = some project ∧ s.labels.value = some labels ∧
      s.policy = .ok ⟨project, labels, s.board.value, s.automation.value⟩) ∨
    (s.problems ≠ [] ∧ s.policy = .error (.policy s.problems)) := by
  obtain ⟨project, labels, -⟩ := result_readSections_eq_ok_iff.1 read
  cases problems : s.problems with
  | cons problem rest =>
      refine .inr ⟨List.cons_ne_nil problem rest, ?_⟩
      rw [Sections.policy, problems]
  | nil =>
      have none := problems
      simp only [Sections.problems, List.append_eq_nil_iff] at none
      obtain ⟨⟨⟨unflawed, clean⟩, -⟩, -⟩ := none
      have named := readProject_found (Data.field "project" entries)
      have grouped := readTaxonomy_found (Data.field "labels" entries)
      rw [Bounded.Ensures, project] at named
      rw [Bounded.Ensures, labels] at grouped
      obtain ⟨project, given⟩ := Option.isSome_iff_exists.1 (named unflawed _ rfl)
      obtain ⟨labels, found⟩ := Option.isSome_iff_exists.1 (grouped clean _ rfl)
      refine .inl ⟨rfl, project, labels, given, found, ?_⟩
      rw [Sections.policy, problems, given, found]

/-- A document without entries has no obstacles. -/
theorem not_obstacle_of_entries {document : Data} (bare : document.entries = []) (stop : Fault) :
    ¬Obstacle document stop := by
  intro obstacle
  have empty : Obstacle (.map []) stop := obstacle.of_entries bare
  obtain ⟨first, ⟨⟩⟩ := (stops_readSections []).error_of_obstacle stop empty

/-- A document without obstacles gives a policy or its problems, at least one. -/
theorem answer_of_free {document : Data} (free : ∀ stop, ¬Obstacle document stop) :
    (∃ p, (ofData document).result = .ok p) ∨
      ∃ problems, problems ≠ [] ∧ (ofData document).result = .error (.policy problems) := by
  cases document with
  | map entries =>
      rw [ofData, ofEntries, Run.result_bind]
      rcases (stops_readSections entries).dichotomy with ⟨stop, obstacle, -⟩ | ⟨-, s, read⟩
      · exact absurd obstacle (free stop)
      · rw [read]
        rcases policy_of_readSections read with ⟨-, project, labels, -, -, policy⟩ | ⟨some, policy⟩
        · exact .inl ⟨_, policy⟩
        · exact .inr ⟨_, some, policy⟩
  | _ => exact .inr ⟨[.topLevel], List.cons_ne_nil _ _, rfl⟩

/-- A document with an obstacle stops the reading, at one of its obstacles. -/
theorem stop_of_obstacle {document : Data} {stop : Fault} (obstacle : Obstacle document stop) :
    ∃ first, Obstacle document first ∧ (ofData document).result = .error first := by
  cases document with
  | map entries =>
      rw [ofData, ofEntries, Run.result_bind]
      rcases (stops_readSections entries).dichotomy with ⟨first, found, stopped⟩ | ⟨free, -⟩
      · refine ⟨first, found, ?_⟩
        rw [stopped]
        rfl
      · exact absurd obstacle (free stop)
  | _ => exact absurd obstacle (not_obstacle_of_entries rfl stop)

/-- The entries of a document give a policy or its problems, at least one, exactly where nothing stops the
reading. Otherwise it stops at an obstacle of the document, at a value that is wrong or too large. -/
theorem ofData_outcome (entries : Entries) :
    ((∀ stop, ¬Obstacle (.map entries) stop) ∧
      ((∃ p, (ofData (.map entries)).result = .ok p) ∨
        ∃ problems, problems ≠ [] ∧ (ofData (.map entries)).result = .error (.policy problems))) ∨
    ∃ stop, Obstacle (.map entries) stop ∧ (ofData (.map entries)).result = .error stop ∧
      (stop.classOf = .value ∨ stop.classOf = .magnitude) := by
  by_cases blocked : ∃ stop, Obstacle (.map entries) stop
  · obtain ⟨stop, obstacle⟩ := blocked
    obtain ⟨first, found, stopped⟩ := stop_of_obstacle obstacle
    exact .inr ⟨first, found, stopped, classOf_obstacle found⟩
  · have free := not_exists.1 blocked
    exact .inl ⟨free, answer_of_free free⟩

/-- A document with a trigger whose weight no binary64 number comes near. -/
def heavy : Data := .record [
  ("project", .record [("type", .text "backend")]),
  ("labels", .record []),
  ("automation", .record [("label_inference", .record [("triggers", .record [("type", .record [
    ("bug", .list [.record [("pattern", .text "crash"), ("weight", .int (10 ^ 400))]])])])])])]

/-- It gives neither a policy nor problems. -/
theorem heavy_is_not_answered : (¬∃ p, (ofData heavy).result = .ok p) ∧
    ¬∃ problems, (ofData heavy).result = .error (.policy problems) := by
  have stopped : (ofData heavy).result = .error .tooLarge := by decide +kernel
  simp [stopped]

end Policy

end Triage
