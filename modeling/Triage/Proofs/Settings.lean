import Triage.Proofs.Amounts
import Triage.Proofs.Audit.Findings
import Triage.Proofs.Log.Level
import Triage.Proofs.Text.Blank

/-!
# Values that are checked

Four of the settings are checked. What is wrong with them is told together: one entry for each key whose value is
invalid, in a fixed order. If nothing is wrong, every value that is not blank is in force as it is written.
-/

namespace Triage

namespace Text

/-! ## Upper case -/

theorem upperSequence_ne_nil (c : Char) : upperSequence c ≠ [] := by
  have filled : ∀ entry ∈ upperSequences, entry.2 ≠ [] := by decide
  rw [upperSequence]
  split
  · exact List.cons_ne_nil _ _
  · split
    · rename_i codes found
      obtain ⟨before, after, whole, -⟩ := List.lookup_eq_some_iff.1 found
      exact mt List.map_eq_nil_iff.1 (filled (c.toNat, codes) (by simp [whole]))
    · exact List.cons_ne_nil _ _

theorem upper_eq_empty_iff {s : String} : upper s = "" ↔ s = "" := by
  rw [← String.toList_inj, ← String.toList_inj, upper, String.toList_ofList]
  exact ⟨fun none => List.eq_nil_iff_forall_not_mem.2 fun c member =>
    upperSequence_ne_nil c (List.flatMap_eq_nil_iff.1 none c member), fun none => by rw [none]; rfl⟩

end Text

namespace Settings

/-! ## Keys -/

/-- The keys whose values are checked. -/
inductive Key where
  | level
  | threshold
  | logSize
  | logBackups
deriving DecidableEq

namespace Key

def all : List Key := [.level, .threshold, .logSize, .logBackups]

def name : Key → String
  | .level => "LOG_LEVEL"
  | .threshold => "SLA_THRESHOLD_HOURS"
  | .logSize => "LOG_SIZE"
  | .logBackups => "LOG_BACKUPS"

/-- What may stand under a key, apart from blanks. -/
def Allows : Key → String → Prop
  | .level, raw => ∃ level ∈ Level.all, level.name = Text.upper raw
  | .threshold, raw => ∃ hours ∈ Decimal.float? raw, ¬ hours ≤ 0
  | .logSize, raw | .logBackups, raw => ∃ n ∈ (Decimal.integer 10 raw).toOption, 0 ≤ n

instance (key : Key) (raw : String) : Decidable (key.Allows raw) :=
  match key with
  | .level => inferInstanceAs (Decidable (∃ level ∈ Level.all, level.name = Text.upper raw))
  | .threshold => inferInstanceAs (Decidable (∃ hours ∈ Decimal.float? raw, ¬ hours ≤ 0))
  | .logSize | .logBackups => inferInstanceAs (Decidable (∃ n ∈ (Decimal.integer 10 raw).toOption, 0 ≤ n))

/-- How a value that is not allowed is shown. -/
def shown : Key → String → String
  | .level, raw => Text.upper raw
  | _, raw => raw

/-- What is said of a value that is not allowed. -/
def objection : Key → String → String
  | .level, _ => " (expected one of DEBUG, INFO, WARNING, ERROR, CRITICAL)"
  | .threshold, raw => if (Decimal.float? raw).isSome then " (must be positive)" else " (expected a number)"
  | .logSize, raw | .logBackups, raw =>
    if (Decimal.integer 10 raw).toOption.isSome then " (must not be negative)" else " (expected an integer)"

/-- The entry about a value that is not allowed. -/
def entry (key : Key) (raw : String) : String :=
  key.name ++ "=" ++ Text.quoted (key.shown raw) ++ key.objection raw

end Key

variable {α : Type} {values : Table String} {key : Key} {raw : String}

/-- Nothing but blanks stands under a key, if anything. -/
def Blank (values : Table String) (key : String) : Prop := ∀ raw ∈ values.get? key, Text.isBlankText raw = true

theorem valueOf_eq_empty_iff {key : String} : valueOf values key = "" ↔ Blank values key := by
  rw [valueOf, Text.strip_eq_empty_iff, Blank]
  cases values.get? key with
  | none => exact iff_of_true rfl (by simp)
  | some raw => simp

instance (values : Table String) (key : String) : Decidable (Blank values key) :=
  decidable_of_iff _ valueOf_eq_empty_iff

/-- Under a key there is a value that is not blank and not allowed. -/
def Invalid (values : Table String) (key : Key) : Prop :=
  ¬ Blank values key.name ∧ ¬ key.Allows (valueOf values key.name)

instance (values : Table String) (key : Key) : Decidable (Invalid values key) :=
  inferInstanceAs (Decidable (_ ∧ _))

/-- A value is the one under a key: the standard one for blanks, and otherwise one that the text means. -/
structure Taken (values : Table String) (key : String) (standard : α) (means : String → α → Prop) (value : α) :
    Prop where
  blank : Blank values key → value = standard
  written : ¬ Blank values key → means (valueOf values key) value

/-! ## Messages -/

theorem message_level (raw : String) : (SettingProblem.level (Text.upper raw)).message = Key.level.entry raw := by
  -- The message has the key and the equals sign in one text, the entry has them apart.
  have start : "LOG_LEVEL=" = "LOG_LEVEL" ++ "=" := rfl
  have names : " (expected one of " ++ (", ".intercalate SettingProblem.levelNames ++ ")") =
    " (expected one of DEBUG, INFO, WARNING, ERROR, CRITICAL)" := by decide
  simp only [SettingProblem.message, Key.entry, Key.name, Key.shown, Key.objection, toString, String.append_assoc,
    start, names]

theorem message_notNumber (unread : Decimal.float? raw = none) :
    (SettingProblem.notNumber Key.threshold.name raw).message = Key.threshold.entry raw := by
  rw [Key.entry, Key.objection, unread]
  rfl

theorem message_notPositive {hours : Float} (read : Decimal.float? raw = some hours) :
    (SettingProblem.notPositive Key.threshold.name raw).message = Key.threshold.entry raw := by
  rw [Key.entry, Key.objection, read]
  rfl

/-- The keys for whole numbers. -/
def Key.Counts (key : Key) : Prop := key = .logSize ∨ key = .logBackups

theorem Key.Counts.allows_iff (counts : key.Counts) :
    key.Allows raw ↔ ∃ n : Nat, Decimal.integer 10 raw = .ok n := by
  have known : key.Allows raw ↔ ∃ n ∈ (Decimal.integer 10 raw).toOption, 0 ≤ n := by
    rcases counts with rfl | rfl <;> rfl
  rw [known]
  cases Decimal.integer 10 raw with
  | error fault => simp [Except.toOption]
  | ok n => cases n <;> simp [Except.toOption]

theorem Key.Counts.entry_eq (counts : key.Counts) : key.entry raw = key.name ++ "=" ++ Text.quoted raw ++
    if (Decimal.integer 10 raw).toOption.isSome then " (must not be negative)" else " (expected an integer)" := by
  rcases counts with rfl | rfl <;> rfl

theorem message_notWhole {fault : Decimal.IntegerFault} (counts : key.Counts)
    (unread : Decimal.integer 10 raw = .error fault) :
    (SettingProblem.notWhole key.name raw).message = key.entry raw := by
  rw [counts.entry_eq, unread]
  rfl

theorem message_negative {n : Nat} (counts : key.Counts) (read : Decimal.integer 10 raw = .ok (.negSucc n)) :
    (SettingProblem.negative key.name raw).message = key.entry raw := by
  rw [counts.entry_eq, read]
  rfl

/-! ## Readers -/

/-- A reader tells if the value under a key is invalid, and else gives the one that is meant. -/
structure Checks (values : Table String) (key : Key) (standard : α) (means : String → α → Prop)
    (x : Checked SettingProblem α) : Prop where
  entries : x.problems.map SettingProblem.message =
    if Invalid values key then [key.entry (valueOf values key.name)] else []
  taken : x.problems = [] → Taken values key.name standard means x.value

namespace Checks

variable {standard a : α} {means : String → α → Prop} {problem : SettingProblem}

theorem blank (blank : Blank values key.name) : Checks values key standard means (pure standard) where
  entries := (if_neg fun invalid : Invalid values key => invalid.1 blank).symm
  taken _ := ⟨fun _ => rfl, fun some => absurd blank some⟩

theorem allowed (some : ¬ Blank values key.name) (allows : key.Allows (valueOf values key.name))
    (meant : means (valueOf values key.name) a) : Checks values key standard means (pure a) where
  entries := (if_neg fun invalid : Invalid values key => invalid.2 allows).symm
  taken _ := ⟨fun blank => absurd blank some, fun _ => meant⟩

theorem flawed (some : ¬ Blank values key.name) (wrong : ¬ key.Allows (valueOf values key.name))
    (told : problem.message = key.entry (valueOf values key.name)) :
    Checks values key standard means (.flawed problem a) where
  entries := by
    have invalid : Invalid values key := ⟨some, wrong⟩
    rw [if_pos invalid, ← told]
    rfl
  taken := nofun

end Checks

/-- The name of a level is meant in any case. -/
def MeansLevel (raw : String) (level : Level) : Prop := level.name = Text.upper raw

theorem checks_readLevel (values : Table String) :
    Checks values .level standard.level MeansLevel (readLevel values) := by
  rw [readLevel]
  by_cases blank : Blank values "LOG_LEVEL"
  · rw [valueOf_eq_empty_iff.2 blank]
    exact .blank blank
  · have some : ¬ Text.upper (valueOf values "LOG_LEVEL") = "" := by
      rw [Text.upper_eq_empty_iff, valueOf_eq_empty_iff]
      exact blank
    rw [if_neg (by simpa using some)]
    cases found : Level.ofName? (Text.upper (valueOf values "LOG_LEVEL")) with
    | none =>
        have unknown : ¬ Key.level.Allows (valueOf values "LOG_LEVEL") := by
          rintro ⟨level, -, same⟩
          rw [← same, Level.ofName?_name] at found
          cases found
        exact .flawed blank unknown (message_level _)
    | some level =>
        have same := name_of_ofName? found
        have known : Key.level.Allows (valueOf values "LOG_LEVEL") := ⟨level, List.mem_of_find?_eq_some found, same⟩
        exact .allowed blank known same

/-- A positive number of hours is meant, or what is no number. -/
def MeansHours (raw : String) (threshold : Option Float) : Prop :=
  ∃ hours, threshold = some hours ∧ Decimal.float? raw = some hours ∧ (0 < hours ∨ hours.isNaN = true)

theorem checks_readThreshold (values : Table String) :
    Checks values .threshold standard.threshold MeansHours (readThreshold values) := by
  rw [readThreshold]
  by_cases blank : Blank values "SLA_THRESHOLD_HOURS"
  · rw [valueOf_eq_empty_iff.2 blank]
    exact .blank blank
  · rw [if_neg (by simpa using mt valueOf_eq_empty_iff.1 blank)]
    cases found : Decimal.float? (valueOf values "SLA_THRESHOLD_HOURS") with
    | none =>
        have wrong : ¬ Key.threshold.Allows (valueOf values "SLA_THRESHOLD_HOURS") := by
          rintro ⟨hours, given, -⟩
          rw [found] at given
          cases given
        exact .flawed blank wrong (message_notNumber found)
    | some hours =>
        dsimp only
        by_cases low : hours ≤ 0
        · have wrong : ¬ Key.threshold.Allows (valueOf values "SLA_THRESHOLD_HOURS") := by
            rintro ⟨_, given, above⟩
            rw [found] at given
            cases given
            exact above low
          rw [if_pos low]
          exact .flawed blank wrong (message_notPositive found)
        · have right : Key.threshold.Allows (valueOf values "SLA_THRESHOLD_HOURS") := ⟨hours, found, low⟩
          -- Not at most zero is not yet positive: the value may be no number.
          have meant : 0 < hours ∨ hours.isNaN = true := by
            rw [Decimal.pos_iff_not_isNaN low]
            exact (em _).symm
          rw [if_neg low]
          exact .allowed blank right ⟨hours, rfl, found, meant⟩

/-- A natural number is meant. -/
def MeansCount (raw : String) (count : Nat) : Prop := Decimal.integer 10 raw = .ok count

theorem checks_readCount (values : Table String) (counts : key.Counts) (standard : Nat) :
    Checks values key standard MeansCount (readCount values key.name standard) := by
  rw [readCount]
  by_cases blank : Blank values key.name
  · rw [valueOf_eq_empty_iff.2 blank]
    exact .blank blank
  · rw [if_neg (by simpa using mt valueOf_eq_empty_iff.1 blank)]
    cases found : Decimal.integer 10 (valueOf values key.name) with
    | error fault =>
        have wrong : ¬ key.Allows (valueOf values key.name) := by
          rw [counts.allows_iff, found]
          rintro ⟨n, ⟨⟩⟩
        exact .flawed blank wrong (message_notWhole counts found)
    | ok n =>
        cases n with
        | ofNat n => exact .allowed blank (counts.allows_iff.2 ⟨n, found⟩) found
        | negSucc n =>
            have wrong : ¬ key.Allows (valueOf values key.name) := by
              rw [counts.allows_iff, found]
              rintro ⟨m, ⟨⟩⟩
            exact .flawed blank wrong (message_negative counts found)

/-- A text is meant as it is. -/
def MeansText (raw text : String) : Prop := text = raw

/-! ## All values -/

/-- One entry for each key whose value is invalid. -/
def objections (values : Table String) : List String :=
  (Key.all.filter (Invalid values ·)).map fun key => key.entry (valueOf values key.name)

/-- The settings are those that are written, and the standard ones where nothing is written. -/
structure InForce (values : Table String) (settings : Settings) : Prop where
  document : Taken values "WORKFLOW_CONFIG_PATH" standard.document MeansText settings.document
  level : Taken values Key.level.name standard.level MeansLevel settings.level
  logFile : Taken values "LOG_FILE" standard.logFile MeansText settings.logFile
  logSize : Taken values Key.logSize.name standard.logSize MeansCount settings.logSize
  logBackups : Taken values Key.logBackups.name standard.logBackups MeansCount settings.logBackups
  threshold : Taken values Key.threshold.name standard.threshold MeansHours settings.threshold

theorem taken_textOr (values : Table String) (key standard : String) :
    Taken values key standard MeansText (textOr values key standard) := by
  rw [textOr]
  constructor
  · intro blank
    rw [valueOf_eq_empty_iff.2 blank]
    rfl
  · intro some
    exact if_neg (by simpa using mt valueOf_eq_empty_iff.1 some)

theorem taken_valueOf (values : Table String) (key : String) :
    Taken values key "" MeansText (valueOf values key) where
  blank := valueOf_eq_empty_iff.2
  written _ := rfl

theorem checks_logSize (values : Table String) : Checks values .logSize standard.logSize MeansCount
    (readCount values "LOG_SIZE" standard.logSize) := checks_readCount values (.inl rfl) _

theorem checks_logBackups (values : Table String) : Checks values .logBackups standard.logBackups MeansCount
    (readCount values "LOG_BACKUPS" standard.logBackups) := checks_readCount values (.inr rfl) _

theorem message_problems (values : Table String) :
    (ofTable values).problems.map SettingProblem.message = objections values := by
  have each : objections values =
      Key.all.flatMap fun key => if Invalid values key then [key.entry (valueOf values key.name)] else [] := by
    rw [objections, ← flatMap_ite]
    simp only [decide_eq_true_eq]
  rw [each, ofTable]
  simp only [Checked.problems_bind, Checked.problems_pure, List.map_append, List.append_nil]
  rw [(checks_readLevel values).entries, (checks_readThreshold values).entries, (checks_logSize values).entries,
    (checks_logBackups values).entries]
  simp only [Key.all, List.flatMap_cons, List.flatMap_nil, List.append_nil]

theorem inForce_of_problems_eq_nil (free : (ofTable values).problems = []) : InForce values (ofTable values).value := by
  simp only [ofTable, Checked.problems_bind, Checked.problems_pure, List.append_nil, List.append_eq_nil_iff] at free
  obtain ⟨level, threshold, logSize, logBackups⟩ := free
  simp only [ofTable, Checked.value_bind, Checked.value_pure]
  constructor <;> dsimp only
  · exact taken_textOr values "WORKFLOW_CONFIG_PATH" standard.document
  · exact (checks_readLevel values).taken level
  · exact taken_valueOf values "LOG_FILE"
  · exact (checks_logSize values).taken logSize
  · exact (checks_logBackups values).taken logBackups
  · exact (checks_readThreshold values).taken threshold

theorem objections_eq_nil_iff : objections values = [] ↔ ¬ ∃ key, Invalid values key := by
  have all (key : Key) : key ∈ Key.all := by cases key <;> decide
  rw [objections, List.map_eq_nil_iff, List.filter_eq_nil_iff]
  simp [all]

/-! ## Loading -/

variable {cwd : Path} {tree : FileTree} {environment : Table String} {fault : Fault}

/-- Settings that cannot be loaded leave the environment as it is. -/
theorem environment_of_error (refused : (load cwd tree environment).1 = .error fault) :
    (load cwd tree environment).2 = environment := by
  rw [load] at refused ⊢
  cases file : ofFile? cwd tree with
  | none => rfl
  | some read =>
      rw [file] at refused
      cases read with
      | error problem => rfl
      | ok settings => cases refused

/-- Either some value is invalid, and there is a fault with one entry for each key with such a value, or the settings
are those that are written. -/
theorem invalid_are_told (source : String) (values : Table String) :
    (((∃ key, Invalid values key) ∧ ∃ fault, ofSource source values = .error fault ∧ fault.classOf = .value ∧
        fault.message = s!"Invalid configuration in {source}: " ++ ", ".intercalate (objections values)) ∨
      ((¬ ∃ key, Invalid values key) ∧ ∃ settings, ofSource source values = .ok settings ∧ InForce values settings)) ∧
    ∀ cwd tree environment fault, (load cwd tree environment).1 = .error fault →
      (load cwd tree environment).2 = environment := by
  refine ⟨?_, fun _ _ _ _ => environment_of_error⟩
  have told := message_problems values
  rw [ofSource]
  by_cases free : (ofTable values).problems = []
  · refine .inr ⟨?_, _, if_pos (List.isEmpty_iff.2 free), inForce_of_problems_eq_nil free⟩
    rw [← objections_eq_nil_iff, ← told, free]
    rfl
  · refine .inl ⟨?_, _, if_neg (mt List.isEmpty_iff.1 free), rfl, ?_⟩
    · by_contra none
      rw [objections_eq_nil_iff.2 none, List.map_eq_nil_iff] at told
      exact free told
    · exact congrArg (s!"Invalid configuration in {source}: " ++ ", ".intercalate ·) told

/-- An environment in which four values are invalid and one is blank. -/
def crossed : Table String := .ofList [("LOG_SIZE", "big"), ("LOG_FILE", " "), ("SLA_THRESHOLD_HOURS", " 0 "),
  ("LOG_LEVEL", "loud"), ("LOG_BACKUPS", "-1")]

theorem crossed_are_told :
    (∃ fault, ofSource "environment" crossed = .error fault ∧ fault.message =
      "Invalid configuration in environment: " ++
        "LOG_LEVEL='LOUD' (expected one of DEBUG, INFO, WARNING, ERROR, CRITICAL), " ++
        "SLA_THRESHOLD_HOURS='0' (must be positive), LOG_SIZE='big' (expected an integer), " ++
        "LOG_BACKUPS='-1' (must not be negative)") ∧
    (load [] .empty crossed).2 = crossed := by
  obtain ⟨⟨-, fault, refused, -, message⟩ | ⟨none, -⟩, kept⟩ := invalid_are_told "environment" crossed
  · have loaded : load [] .empty crossed = (ofSource "environment" crossed, crossed) :=
      load_of_missing (by decide +kernel) crossed
    refine ⟨⟨fault, refused, ?_⟩, kept [] .empty crossed fault (by rw [loaded]; exact refused)⟩
    rw [message]
    decide +kernel
  · exact absurd ⟨.level, by decide +kernel⟩ none

end Settings

end Triage
