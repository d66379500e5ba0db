import Triage.Checked
import Triage.Data.Display
import Triage.Note
import Triage.Pattern.Reading
import Triage.Yaml.Reading

/-!
# Reading policies

A policy is read from the value of a document: a mapping with the sections project, labels, board and
automation. Each section is read on its own, and each gives its problems; there is a policy when none
has any. A section of the automation that is present is enabled unless it says otherwise, an absent one
is disabled. Where a number is beyond all bounds, and where a pattern cannot be read at all, the reading
stops.
-/

namespace Triage

namespace Policy

abbrev Check := Checked Problem

/-- Reading that stops at a fault that is no problem of the document. -/
abbrev Bounded := ExceptT Fault Check

namespace Bounded

/-- Notes a problem and goes on with a value. -/
def flawed {α : Type} (problem : Problem) (value : α) : Bounded α :=
  (Checked.flawed problem value : Check α)

end Bounded

/-- The entries of a mapping under their keys. -/
abbrev Entries := List (Data × Data)

/-- A value as a problem or a path shows it; a whole number too long to be written stops the reading. -/
def shown (form : Data → String) (value : Data) : Except Fault String :=
  (value.shown form).mapError .integer

/-! ## Values of fields -/

/-- A mapping, or nothing where a mapping may be absent. -/
def mapping (path : String) (required : Bool) : Data → Check (Option Entries)
  | .map entries => pure (some entries)
  | .null => if required then .flawed (.missingSection path) none else pure none
  | value => .flawed (.notMapping path value.kind) none

/-- A truth value; an absent field has the standard one. -/
def boolField (entries : Entries) (key path : String) (standard : Bool) : Check Bool :=
  match Data.lookup key entries with
  | none => pure standard
  | some (.bool b) => pure b
  | some _ => .flawed (.expected (path ++ "." ++ key) .aBool) standard

def textField (entries : Entries) (key path : String) : Check (Option String) :=
  match Data.field key entries with
  | .null => pure none
  | .text s => pure (some s)
  | _ => .flawed (.expected (path ++ "." ++ key) .aText) none

/-- One of several named choices. -/
def choiceField {α : Type} (names : List String) (ofName? : String → Option α) (standard : α)
    (entries : Entries) (key path : String) : Bounded α :=
  match Data.lookup key entries with
  | none => pure standard
  | some value =>
    match value.text?.bind ofName? with
    | some a => pure a
    | none => do .flawed (.choice (path ++ "." ++ key) names (← shown Data.literal value)) standard

/-- A list; an absent field, and any value that is not truthy, counts as an empty one. -/
def listField (entries : Entries) (key path : String) : Check (Option (List Data)) :=
  let value := Data.field key entries
  if value.truthy then
    match value with
    | .list items => pure (some items)
    | _ => .flawed (.expected (path ++ "." ++ key) .aList) none
  else pure (some [])

/-! ## Project -/

def readProject (raw : Data) : Bounded (Option Project) := do
  match ← mapping "project" true raw with
  | none => return none
  | some entries =>
    match Data.field "type" entries with
    | .null => .flawed (.missingField "project.type") none
    | value =>
      match value.text?.bind ProjectKind.ofName? with
      | none =>
        let literal ← shown Data.literal value
        .flawed (.choice "project.type" (ProjectKind.all.map ProjectKind.name) literal) none
      | some kind =>
        let language ← textField entries "language" "project"
        let name ← textField entries "name" "project"
        let repo ← textField entries "repo" "project"
        return some ⟨kind, language, name, repo⟩

/-! ## Labels -/

def isHexDigit (c : Char) : Bool :=
  c.isDigit || ('a' ≤ c && c ≤ 'f') || ('A' ≤ c && c ≤ 'F')

/-- Six hexadecimal digits, behind which one line feed is let pass. -/
def isColor (s : String) : Bool :=
  let cs := s.toList
  let body := if cs.getLast? = some '\n' then cs.dropLast else cs
  body.length == 6 && body.all isHexDigit

def readColor (path : String) : Data → Check (Option String)
  | .text raw =>
    let color := (Text.after? "#" raw).getD raw
    if isColor color then pure (some color) else .flawed (.color path raw) none
  | _ => .flawed (.expected path .quotedColor) none

def readSla (category : Category) (path : String) : Data → Check (Option Nat)
  | .null => pure none
  | value =>
    if category != .priority then .flawed (.slaNotAllowed path) none
    else match value with
      | .int n => if 0 < n then pure (some n.toNat) else .flawed (.expected path .positiveWhole) none
      | _ => .flawed (.expected path .positiveWhole) none

def readDescription (path : String) (entries : Entries) : Check String :=
  match Data.field "description" entries with
  | .null => pure ""
  | .text s => pure s
  | _ => .flawed (.expected path .aText) ""

def readDefinition (category : Category) (path : String) (raw : Data) :
    Check (Option LabelDefinition) := do
  match ← mapping path true raw with
  | none => return none
  | some entries =>
    let color ← readColor (path ++ ".color") (Data.field "color" entries)
    let description ← readDescription (path ++ ".description") entries
    let sla ← readSla category (path ++ ".sla_hours") (Data.field "sla_hours" entries)
    return color.map fun color => ⟨color, description, sla⟩

def readLabels (category : Category) (path : String) : Entries → Bounded (List (String × LabelDefinition))
  | [] => pure []
  | (key, raw) :: rest => do
    let first ← match key.text?.filter (· != "") with
      | none => do .flawed (.labelName path (← shown Data.literal key)) none
      | some short => do
        let definition ← readDefinition category (path ++ "." ++ short) raw
        pure (definition.map fun d => (short, d))
    let others ← readLabels category path rest
    return first.toList ++ others

def readGroup (category : Category) (lead : String) (raw : Data) : Bounded LabelGroup := do
  let path := "labels." ++ category.name
  let entries ← mapping path false raw
  let labels ← readLabels category path (entries.getD [])
  return ⟨lead, .ofList labels⟩

/-- The leads that differ from the standard ones. -/
def readLeads : Entries → Bounded (List (Category × String))
  | [] => pure []
  | (key, value) :: rest => do
    let first ← match key.text?.bind Category.ofName? with
      | none => do .flawed (.leadOfUnknown (← shown Data.literal key)) none
      | some category => match value with
        | .null => pure (some (category, ""))
        | .text s => pure (some (category, s))
        | _ => .flawed (.expected ("labels.prefixes." ++ category.name) .aText) none
    let others ← readLeads rest
    return first.toList ++ others

def leadOf (leads : List (Category × String)) (category : Category) : String :=
  (leads.lookup category).getD category.standardLead

/-- The entries of the labels with the leads that they give; nothing where there are no labels. -/
def readLeading (raw : Data) : Bounded (Option (Entries × List (Category × String))) := do
  match ← mapping "labels" true raw with
  | none => return none
  | some entries =>
    let rawLeads ← mapping "labels.prefixes" false (Data.field "prefixes" entries)
    let leads ← readLeads (rawLeads.getD [])
    return some (entries, leads)

/-- The labels of all categories, given their leads. -/
def readGroups : Option (Entries × List (Category × String)) → Bounded (Option Taxonomy)
  | none => return none
  | some (entries, leads) => do
    let group := fun c => readGroup c (leadOf leads c) (Data.field (Category.name c) entries)
    return some ⟨← group .status, ← group .priority, ← group .type, ← group .area, ← group .workflow⟩

def readTaxonomy (raw : Data) : Bounded (Option Taxonomy) := do readGroups (← readLeading raw)

/-- The keys of the labels that are passed over. -/
def unknownCategories : Data → List Data
  | .map entries => (entries.map Prod.fst).filter fun key =>
    !((key.text?.map fun s => s == "prefixes" || (Category.ofName? s).isSome).getD false)
  | _ => []

/-! ## Board -/

def filledText? (value : Data) : Option String := value.text?.filter (· != "")

def readColumn (place : Nat) (raw : Data) : Check (Option Column) := do
  let path := s!"board.columns[{place}]"
  match ← mapping path true raw with
  | none => return none
  | some entries =>
    match filledText? (Data.field "name" entries) with
    | none => .flawed (.expected (path ++ ".name") .aFilledText) none
    | some name =>
      match filledText? (Data.field "maps_to" entries) with
      | none => .flawed (.statusReference (path ++ ".maps_to") name) none
      | some mapsTo => return some ⟨name, mapsTo⟩

def readBoard (raw : Data) : Check Board := do
  match ← mapping "board" false raw with
  | none => return .standard
  | some entries =>
    let name ← match Data.lookup "name" entries with
      | none => pure Board.standardName
      | some value => match filledText? value with
        | some name => pure name
        | none => .flawed (.expected "board.name" .aFilledText) Board.standardName
    let items ← listField entries "columns" "board"
    let columns ← Checked.collect readColumn 0 (items.getD [])
    return ⟨name, columns⟩

/-! ## Automation -/

/-- Some patterns stop the reading, all others that are refused are problems. -/
def ofPatternFault (path : String) : Pattern.Fault → Bounded (Option Trigger)
  | .count => throw .tooLarge
  | .longCount digits => throw (.integer (.tooLong digits))
  | .kinds => throw .patternKinds
  | fault => .flawed (.pattern path fault) none

def readTrigger (path : String) (raw : Data) : Bounded (Option Trigger) := do
  match ← mapping path true raw with
  | none => return none
  | some entries =>
    match filledText? (Data.field "pattern" entries) with
    | none => .flawed (.expected (path ++ ".pattern") .expression) none
    | some pattern =>
      match Pattern.read {} pattern with
      | .error fault => ofPatternFault (path ++ ".pattern") fault
      | .ok _ =>
        match (Data.field "weight" entries).weight? with
        | none => .flawed (.expected (path ++ ".weight") .positive) none
        | some weight =>
          match weight.toFloat? with
          | none => throw .tooLarge
          | some x =>
            let name ← textField entries "name" path
            return some ⟨pattern, x, name⟩

def readTriggers (path : String) : Nat → List Data → Bounded (List Trigger)
  | _, [] => pure []
  | place, raw :: rest => do
    let first ← readTrigger s!"{path}[{place}]" raw
    let others ← readTriggers path (place + 1) rest
    return first.toList ++ others

def readTriggerLists (path : String) : Entries → Bounded (List (String × List Trigger))
  | [] => pure []
  | (key, raw) :: rest => do
    let short ← shown Data.display key
    let path' := path ++ "." ++ short
    let first ← match raw with
      | .list items => do pure (some (short, ← readTriggers path' 0 items))
      | _ => .flawed (.expected path' .triggers) none
    let others ← readTriggerLists path rest
    return first.toList ++ others

def readOverrides (path : String) : Entries → Bounded (List (String × TriggerTable))
  | [] => pure []
  | (key, raw) :: rest => do
    let path' := path ++ "." ++ (← shown Data.display key)
    let first ← match (key.text?.bind Category.ofName?).filter Category.inferred.contains with
      | none => .flawed (.notInferred path') none
      | some category => do
        let entries ← mapping path' false raw
        let lists ← readTriggerLists path' (entries.getD [])
        pure (some (category.name, .ofList lists))
    let others ← readOverrides path rest
    return first.toList ++ others

/-- The trigger tables of a policy, if it has any. -/
def readTables (path : String) (raw : Data) : Bounded (Option (Table TriggerTable)) := do
  match ← mapping path false raw with
  | none => return none
  | some overrides =>
    let tables ← readOverrides path overrides
    return some (.ofList tables)

def readInference (raw : Data) : Bounded InferenceSettings := do
  let path := "automation.label_inference"
  match ← mapping path false raw with
  | none => return ⟨false, 0, none⟩
  | some entries =>
    let threshold ← match Data.lookup "confidence_threshold" entries with
      | none => pure (0 : Float)
      | some value => match (value.measure?.filter Number.inUnit).bind Number.toFloat? with
        | some x => pure x
        | none => .flawed (.expected (path ++ ".confidence_threshold") .upToOne) 0
    let enabled ← boolField entries "enabled" path true
    let tables ← readTables (path ++ ".triggers") (Data.field "triggers" entries)
    return ⟨enabled, threshold, tables⟩

def readRule (path : String) (place : Nat) (raw : Data) : Check (Option EscalationRule) := do
  let path := s!"{path}[{place}]"
  match ← mapping path true raw with
  | none => return none
  | some entries =>
    match Data.field "from_priority" entries, Data.field "to_priority" entries with
    | .text source, .text target =>
      match Data.field "after_days" entries with
      | .int days => return some ⟨source, target, days⟩
      | _ => .flawed (.expected (path ++ ".after_days") .whole) none
    | _, _ => .flawed (.endpoints path) none

def readEscalation (raw : Data) : Check EscalationSettings := do
  let path := "automation.priority_escalation"
  match ← mapping path false raw with
  | none => return ⟨false, []⟩
  | some entries =>
    let items ← listField entries "rules" path
    let rules ← Checked.collect (readRule (path ++ ".rules")) 0 (items.getD [])
    let enabled ← boolField entries "enabled" path true
    return ⟨enabled, rules⟩

def readSlaTable (path : String) : Entries → Bounded (List (String × Number))
  | [] => pure []
  | (key, value) :: rest => do
    let priority ← shown Data.display key
    let first ← match value.weight? with
      | some hours => pure (some (priority, hours))
      | none => .flawed (.expected (path ++ "." ++ priority) .positiveHours) none
    let others ← readSlaTable path rest
    return first.toList ++ others

def readBlocked (raw : Data) : Bounded BlockedSettings := do
  let path := "automation.blocked_detection"
  match ← mapping path false raw with
  | none => return ⟨false, ∅, BlockedSettings.standardRatio⟩
  | some entries =>
    let rawSla ← mapping (path ++ ".sla") false (Data.field "sla" entries)
    let sla ← readSlaTable (path ++ ".sla") (rawSla.getD [])
    let ratio ← match Data.lookup "warning_ratio" entries with
      | none => pure BlockedSettings.standardRatio
      | some value => match (value.measure?.filter Number.belowOne).bind Number.toFloat? with
        | some x => pure x
        | none => .flawed (.expected (path ++ ".warning_ratio") .belowOne) BlockedSettings.standardRatio
    let enabled ← boolField entries "enabled" path true
    return ⟨enabled, .ofList sla, ratio⟩

def readSync (raw : Data) : Bounded SyncSettings := do
  let path := "automation.status_sync"
  match ← mapping path false raw with
  | none => return ⟨false, .both, .keepLast⟩
  | some entries =>
    let enabled ← boolField entries "enabled" path true
    let direction ← choiceField (Direction.all.map Direction.name) Direction.ofName? .both
      entries "direction" path
    let resolution ← choiceField (Resolution.all.map Resolution.name) Resolution.ofName? .keepLast
      entries "conflict_resolution" path
    return ⟨enabled, direction, resolution⟩

def readIntake (raw : Data) : Check IntakeSettings := do
  let path := "automation.new_issue_defaults"
  match ← mapping path false raw with
  | none => return .standard
  | some entries =>
    let priority ← match Data.lookup "default_priority" entries with
      | none => pure "P2"
      | some (.text s) => pure s
      | some _ => .flawed (.expected (path ++ ".default_priority") .aText) "P2"
    let toBacklog ← boolField entries "auto_add_to_backlog" path true
    let requireType ← boolField entries "require_type_label" path true
    let requirePriority ← boolField entries "require_priority_label" path false
    return ⟨toBacklog, requireType, requirePriority, priority⟩

def readAutomation (raw : Data) : Bounded Automation := do
  let entries := (← mapping "automation" false raw).getD []
  let inference ← readInference (Data.field "label_inference" entries)
  let escalation ← readEscalation (Data.field "priority_escalation" entries)
  let blocked ← readBlocked (Data.field "blocked_detection" entries)
  let sync ← readSync (Data.field "status_sync" entries)
  let intake ← readIntake (Data.field "new_issue_defaults" entries)
  return ⟨inference, escalation, blocked, sync, intake⟩

/-! ## The whole policy -/

/-- The sections of a policy document. -/
def sections : List String := ["project", "labels", "board", "automation"]

/-- The keys of the document that are passed over. -/
def unknownSections (entries : Entries) : List Data :=
  (entries.map Prod.fst).filter fun key => !((key.text?.map sections.contains).getD false)

/-- Notes each key, as far as the keys may be written. -/
def noteAll (level : Level) (text : String → String) : List Data → Run Unit
  | [] => pure ()
  | key :: rest => do
    Run.note level .policy (text (← shown Data.display key))
    noteAll level text rest

/-- What a section gives, unless the reading of it stops. -/
def gather {α : Type} (section_ : Bounded α) : Run (Check α) := do
  let value ← section_.run.value
  return ⟨value, section_.run.problems⟩

/-- What the sections of a document give, each with its problems. -/
structure Sections where
  project : Check (Option Project)
  labels : Check (Option Taxonomy)
  board : Check Board
  automation : Check Automation

namespace Sections

def problems (s : Sections) : List Problem :=
  s.project.problems ++ s.labels.problems ++ s.board.problems ++ s.automation.problems

/-- The policy of sections without problems. -/
def policy (s : Sections) : Except Fault Policy :=
  match s.problems, s.project.value, s.labels.value with
  | [], some project, some labels => .ok ⟨project, labels, s.board.value, s.automation.value⟩
  | _, _, _ => .error (.policy s.problems)

end Sections

/-- Reads the sections one after the other, and notes what is passed over. -/
def readSections (entries : Entries) : Run Sections := do
  let project ← gather (readProject (Data.field "project" entries))
  let leading ← gather (readLeading (Data.field "labels" entries))
  noteAll .warning (fun key => s!"Ignoring unknown label category 'labels.{key}'")
    (unknownCategories (Data.field "labels" entries))
  let labels ← gather (readGroups leading.value)
  let board := readBoard (Data.field "board" entries)
  let automation ← gather (readAutomation (Data.field "automation" entries))
  noteAll .debug (fun key => s!"Ignoring unknown top-level key '{key}'") (unknownSections entries)
  return ⟨project, leading >>= fun _ => labels, board, automation⟩

/-- The policy in the entries of a document. -/
def ofEntries (entries : Entries) : Run Policy := do
  let sections ← readSections entries
  sections.policy

/-- The policy in the value of a document. -/
def ofData : Data → Run Policy
  | .map entries => ofEntries entries
  | _ => Run.fail (.policy [.topLevel])

/-- The policy in a written document. -/
def ofText (s : String) : Run Policy :=
  match Yaml.read s with
  | .ok value => ofData value
  | .error (.scalar fault) => Run.fail (.scalar fault)
  | .error fault => Run.fail (.policy [.form fault])

end Policy

end Triage
