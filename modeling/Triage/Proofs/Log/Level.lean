import Triage.Proofs.Command.Refusal
import Triage.Proofs.Decimal.Spelled
import Triage.Proofs.Settings.File

/-!
# The level in force

The level of the log is looked up by name twice: when the settings are read, and when the log is set up from the
environment. Both times case does not count. Blanks around the name count only when the log is set up, unless a
settings file has put the plain name into the environment by then.
-/

namespace Triage

namespace Text

/-! ## Blanks in upper case -/

/-- The codes of all blanks. -/
def blankCodes : List Nat :=
  [9, 10, 11, 12, 13, 28, 29, 30, 31, 32, 0x85, 0xA0, 0x1680, 0x2000, 0x2001, 0x2002, 0x2003, 0x2004, 0x2005,
    0x2006, 0x2007, 0x2008, 0x2009, 0x200A, 0x2028, 0x2029, 0x202F, 0x205F, 0x3000]

variable {c : Char} {s : String}

theorem toNat_mem_blankCodes (blank : isBlank c = true) : c.toNat ∈ blankCodes := by
  simp only [isBlank, Bool.or_eq_true, Bool.and_eq_true, decide_eq_true_eq, beq_iff_eq] at blank
  simp only [blankCodes, List.mem_cons, List.not_mem_nil, or_false]
  omega

/-- A blank has no case. -/
theorem upperSequence_of_isBlank (blank : isBlank c = true) : upperSequence c = [c] := by
  have each : ∀ n ∈ blankCodes, upperSequence (Char.ofNat n) = [Char.ofNat n] := by decide
  rw [← Char.ofNat_toNat c]
  exact each _ (toNat_mem_blankCodes blank)

theorem mem_upper_of_isBlank (member : c ∈ s.toList) (blank : isBlank c = true) : c ∈ (upper s).toList := by
  rw [upper, String.toList_ofList]
  refine List.mem_flatMap.2 ⟨c, member, ?_⟩
  rw [upperSequence_of_isBlank blank]
  exact List.mem_singleton_self c

/-- A text that is not kept by stripping has a blank in it. -/
theorem exists_blank_of_strip_ne (padded : strip s ≠ s) : ∃ c ∈ s.toList, isBlank c = true := by
  by_contra none
  refine padded ?_
  have kept : ∀ c ∈ s.toList, isBlank c = false := fun c member =>
    Bool.eq_false_iff.2 fun blank => none ⟨c, member, blank⟩
  rw [strip, Decimal.trimBy_eq_self kept, String.ofList_toList]

end Text

namespace Log

/-! ## Levels by name -/

theorem levelNamed_name (l : Level) : levelNamed (some l.name) = l.number := by
  cases l <;> decide

/-- No name of a level has a blank in it, so a name with one stands for information. -/
theorem levelNamed_of_isBlank {name : String} {c : Char} (member : c ∈ name.toList) (blank : Text.isBlank c = true) :
    levelNamed (some name) = Level.info.number := by
  have solid : ∀ entry ∈ levels, (entry.1.toList.all fun c => !Text.isBlank c) = true := by decide
  have unknown : levels.lookup (Text.upper name) = none := by
    refine List.lookup_eq_none_iff.2 fun entry among => ?_
    rw [bne_iff_ne]
    intro same
    have clear := List.all_eq_true.1 (solid entry among) c (same ▸ Text.mem_upper_of_isBlank member blank)
    rw [blank] at clear
    cases clear
  rw [levelNamed, Option.getD_some, unknown, Option.getD_none]

theorem level_setUp (log : Log) (cwd : Path) (name : Option String) (file : String) (size backups : Nat) (quiet : Bool)
    (t : FileTree) : (log.setUp cwd name file size backups quiet t).1.level = levelNamed name := by
  rw [setUp]
  split
  · rfl
  · cases LogFile.open? cwd file size backups t with
    | mk t opened => cases opened <;> rfl

end Log

theorem Level.number_injective {l l' : Level} (same : l.number = l'.number) : l = l' := by
  cases l <;> cases l' <;> first | rfl | cases same

namespace Settings

variable {values : Table String} {source : String} {settings : Settings}

/-! ## The level of the settings -/

/-- The name of the level, without the blanks around it, in upper case. -/
def levelName (values : Table String) : String := Text.upper (valueOf values "LOG_LEVEL")

theorem name_of_ofName? {name : String} {l : Level} (found : Level.ofName? name = some l) : l.name = name := by
  have same := List.find?_some found
  exact beq_iff_eq.1 same

theorem readLevel_cases (free : (readLevel values).problems = []) :
    levelName values = "" ∧ (readLevel values).value = .info ∨ levelName values = (readLevel values).value.name := by
  rw [readLevel] at free ⊢
  rw [levelName]
  generalize Text.upper (valueOf values "LOG_LEVEL") = name at free ⊢
  by_cases blank : name = ""
  · exact .inl ⟨blank, by rw [if_pos (beq_iff_eq.2 blank)]; rfl⟩
  · rw [if_neg (by simpa using blank)] at free ⊢
    cases found : Level.ofName? name with
    | none =>
        rw [found] at free
        cases free
    | some level => exact .inr (name_of_ofName? found).symm

theorem level_of_ofSource (loaded : ofSource source values = .ok settings) :
    levelName values = "" ∧ settings.level = .info ∨ levelName values = settings.level.name := by
  rw [ofSource] at loaded
  split at loaded
  · rename_i sound
    obtain rfl := Except.ok.inj loaded
    have free := List.isEmpty_iff.1 sound
    rw [ofTable, Checked.problems_bind, List.append_eq_nil_iff] at free
    simp only [ofTable, Checked.value_bind, Checked.value_pure]
    exact readLevel_cases free.1
  · cases loaded

/-- Settings that come from the environment name the level in force if no blanks are around its name there, and
otherwise only by being those of information. -/
theorem levelNamed_eq_iff (loaded : ofSource source values = .ok settings) :
    Log.levelNamed (values.get? "LOG_LEVEL") = settings.level.number ↔
      (∀ written, values.get? "LOG_LEVEL" = some written → Text.strip written = written) ∨ settings.level = .info := by
  have named := level_of_ofSource loaded
  rw [levelName, valueOf] at named
  cases given : values.get? "LOG_LEVEL" with
  | none =>
      rw [given] at named
      have level : settings.level = .info := by
        rcases named with ⟨-, level⟩ | named
        · exact level
        · exact absurd named (by cases settings.level <;> decide)
      rw [level]
      exact ⟨fun _ => .inr rfl, fun _ => Log.levelNamed_name .info⟩
  | some written =>
      rw [given, Option.getD_some] at named
      by_cases plain : Text.strip written = written
      · rw [plain] at named
        have force : Log.levelNamed (some written) = settings.level.number := by
          rw [Log.levelNamed, Option.getD_some]
          rcases named with ⟨blank, level⟩ | named
          · rw [blank, level]
            rfl
          · rw [named]
            cases settings.level <;> rfl
        refine ⟨fun _ => .inl ?_, fun _ => force⟩
        rintro _ ⟨rfl⟩
        exact plain
      · obtain ⟨c, member, blank⟩ := Text.exists_blank_of_strip_ne plain
        rw [Log.levelNamed_of_isBlank member blank]
        constructor
        · intro same
          exact .inr (Level.number_injective same).symm
        · rintro (kept | level)
          · exact absurd (kept written rfl) plain
          · rw [level]

/-! ## The environment behind the settings -/

variable {cwd : Path} {tree : FileTree} {environment environment' : Table String}

/-- Without a settings file the environment is the source, and stays as it is. -/
theorem load_of_missing (missing : tree.has cwd (Path.text (cwd ++ fileName)) = false)
    (environment : Table String) : load cwd tree environment = (ofSource "environment" environment, environment) := by
  rw [FileTree.has] at missing
  have none : ofFile? cwd tree = .none := by
    rw [ofFile?]
    cases found : tree.find cwd (Path.text (cwd ++ fileName)) with
    | error problem => rfl
    | ok entry =>
        rw [found] at missing
        cases missing
  rw [load, none]

/-- A settings file leaves the plain name of its level in the environment. -/
theorem environment_of_found (found : tree.has cwd (Path.text (cwd ++ fileName)) = true)
    (loaded : load cwd tree environment = (.ok settings, environment')) :
    environment' = environment.put "LOG_LEVEL" settings.level.name := by
  rw [FileTree.has] at found
  rw [load] at loaded
  cases file : ofFile? cwd tree with
  | none =>
      rw [ofFile?] at file
      cases place : tree.find cwd (Path.text (cwd ++ fileName)) with
      | error problem =>
          rw [place] at found
          cases found
      | ok entry =>
          rw [place] at file
          cases file
  | some read =>
      rw [file] at loaded
      cases read with
      | error fault => cases loaded
      | ok read =>
          simp only [Prod.mk.injEq, Except.ok.injEq] at loaded
          obtain ⟨rfl, rfl⟩ := loaded
          rfl

end Settings

namespace Program

open Job

variable {here : Surroundings} {tree : FileTree} {settings : Settings} {environment : Table String}

/-! ## Setting up -/

/-- The log is set up at the level that the environment names. -/
theorem level_setUpLog (settings : Settings) (quiet : Bool) (s : Session) :
    ((setUpLog settings quiet).run here s).2.log.level = Log.levelNamed (here.environment.get? "LOG_LEVEL") := by
  rw [run_setUpLog, (afterSetUp_snd s _).2, logSetUp, Log.level_setUp]

/-- The level in force is the one that the settings name exactly if they come from a settings file, or no blanks are
around the name in the environment, or the level is that of information. -/
theorem level_in_force (loaded : Settings.load here.cwd tree here.environment = (.ok settings, environment))
    (quiet : Bool) (s : Session) :
    ((setUpLog settings quiet).run { here with environment } s).2.log.level = settings.level.number ↔
      tree.has here.cwd (Path.text (here.cwd ++ Settings.fileName)) = true ∨
      (∀ written, here.environment.get? "LOG_LEVEL" = some written → Text.strip written = written) ∨
      settings.level = .info := by
  rw [level_setUpLog]
  cases found : tree.has here.cwd (Path.text (here.cwd ++ Settings.fileName)) with
  | false =>
      rw [Settings.load_of_missing found, Prod.mk.injEq] at loaded
      obtain ⟨loaded, rfl⟩ := loaded
      simpa using Settings.levelNamed_eq_iff loaded
  | true =>
      obtain rfl := Settings.environment_of_found found loaded
      simp only [Table.get?_put, if_true, Log.levelNamed_name, true_or]

/-- The line of a settings file that asks for warnings. -/
def warningLine : String := "LOG_LEVEL =  warning \n"

/-- A working directory with that settings file. -/
def warned : FileTree :=
  (FileTree.empty.put [".issueflow"] .directory).put Settings.fileName (.file (Text.Utf8.encode warningLine))

/-- An environment with blanks in front of the name of a level. -/
def padded : Surroundings := ⟨[], .ofList [("LOG_LEVEL", " DEBUG")], default⟩

theorem load_warned : Settings.load [] warned padded.environment =
    (.ok { Settings.standard with level := .warning }, padded.environment.put "LOG_LEVEL" "WARNING") := by
  have stored : warned.read [] (Path.text ([] ++ Settings.fileName)) = .ok (Text.Utf8.encode warningLine) :=
    eq_ok_of_toOption (by decide +kernel)
  have entries : Settings.entries warningLine = .ofList [("LOG_LEVEL", "warning")] := by decide +kernel
  have parsed : (Text.Utf8.decodePieces Settings.pieceSize (Text.Utf8.encode warningLine)).map Settings.entries =
      .ok (.ofList [("LOG_LEVEL", "warning")]) := by
    rw [Text.Utf8.decodePieces_encode, ← entries]
    rfl
  have settled : Settings.ofSource (Path.text ([] ++ Settings.fileName)) (.ofList [("LOG_LEVEL", "warning")]) =
      .ok { Settings.standard with level := .warning } := rfl
  rw [Settings.load, Settings.ofFile?_of_read stored parsed, settled]
  rfl

/-- With the settings file, warnings are what is logged, whatever the environment says. -/
theorem warned_in_force : Settings.load [] warned padded.environment =
      (.ok { Settings.standard with level := .warning }, padded.environment.put "LOG_LEVEL" "WARNING") ∧
    ((setUpLog { Settings.standard with level := .warning } false).run
      { padded with environment := padded.environment.put "LOG_LEVEL" "WARNING" } (.initial warned)).2.log.level = 30 :=
  have loaded : Settings.load padded.cwd warned padded.environment = _ := load_warned
  ⟨load_warned, (level_in_force loaded false (.initial warned)).2 (.inl (by decide +kernel))⟩

/-- Without it the settings name the level of debugging, but that of information is in force. -/
theorem padded_is_not_in_force : Settings.load [] .empty padded.environment =
      (.ok { Settings.standard with level := .debug }, padded.environment) ∧
    ((setUpLog { Settings.standard with level := .debug } false).run padded (.initial .empty)).2.log.level ≠
      Level.debug.number := by
  refine ⟨rfl, ?_⟩
  rw [level_setUpLog]
  decide

end Program

end Triage
