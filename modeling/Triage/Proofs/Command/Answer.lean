import Triage.Proofs.Command.Refusal
import Triage.Proofs.Command.Snapshot
import Triage.Proofs.Json.Improper
import Triage.Proofs.Policy.Text
import Triage.Proofs.Text.Utf8

/-!
# Answers for machines

A command that is asked for JSON and ends well prints one value and a line break, unless the policy switches it
off. The log stays quiet meanwhile, so nothing else is on the output.
-/

namespace Triage

open Job
open Snapshot (atRoot)

/-! ## Answers that hold no binary64 number -/

section

variable {α : Type}

theorem allFinite_textsData (texts : List String) : (textsData texts).allFinite = true := by
  simp [textsData, List.all_map]

theorem allFinite_optionalData (text : Option String) : (optionalData text).allFinite = true := by
  cases text <;> rfl

theorem Audit.allFinite_toData (a : Audit) : a.toData.allFinite = true := by
  simp [Audit.toData, allFinite_textsData]

theorem Escalation.allFinite_toData (e : Escalation) : e.toData.allFinite = true := by
  simp [Escalation.toData, allFinite_optionalData]

theorem Plan.allFinite_toData {item : α → Data} (finite : ∀ a, (item a).allFinite = true) (p : Plan α) :
    (p.toData item).allFinite = true := by
  simp [Plan.toData, List.all_map, finite, allFinite_textsData]

end

namespace Command

/-- The answer of the command holds texts, truth values and whole numbers only. -/
def isExact : Command → Bool
  | .infer .. | .checkBlocked .. | .report .. => false
  | _ => true

/-- The policy switches the command off. -/
def isSwitchedOff (p : Policy) : Command → Bool
  | .infer .. => !p.automation.inference.enabled
  | .checkBlocked .. => !p.automation.blocked.enabled
  | _ => false

theorem evaluates_of_isSwitchedOff {c : Command} {p : Policy} (off : c.isSwitchedOff p = true) :
    c.evaluates = true := by
  cases c with
  | init | validate => cases off
  | _ => rfl

/-- One value and a line break are printed. The value is JSON exactly if every number in it is finite. -/
def Prints (c : Command) (out : String) : Prop :=
  ∃ value, out = Json.write value ++ "\n" ∧ Json.IsNearlyJson (Json.write value) ∧
    (Json.IsJson (Json.write value) ↔ value.allFinite = true) ∧ (c.isExact = true → value.allFinite = true)

theorem prints_write {c : Command} {value : Data} (finite : c.isExact = true → value.allFinite = true) :
    c.Prints (Json.write value ++ "\n") :=
  ⟨value, rfl, Json.isNearlyJson_write value, Json.isJson_write_iff, finite⟩

end Command

/-! ## What a command does before it answers -/

/-- Nothing has been printed, and the log will not print anything. -/
def Session.Fresh (s : Session) : Prop := s.log.IsQuiet ∧ s.out = ""

variable {here : Surroundings} {α : Type}

theorem lasting_fresh : Lasting here Session.Fresh := lasting_quiet here ""

section

variable {P : Session → Prop}

theorem Snapshot.keeps_load (kind : RecordKind α) (path : String) : Keeps here P (Snapshot.load kind path) := by
  refine .bind (.readText path) fun text => ?_
  cases Snapshot.decode text >>= Snapshot.ofData kind path with
  | error h => exact .halt h
  | ok records => exact .pure records

theorem Invocation.keeps_selectIssues (path : String) (number : Option ℤ) (issues : List Issue) :
    Keeps here P (Invocation.selectIssues path number issues) := by
  cases number with
  | none => exact .ofExcept _
  | some n =>
      rw [Invocation.selectIssues]
      cases issues.filter fun issue => issue.number == n with
      | nil => exact .halt _
      | cons first rest =>
          refine .bind (.ofExcept _) fun isOpen => ?_
          cases isOpen with
          | false => exact .halt _
          | true => exact .pure _

theorem Invocation.keeps_adviseAll (lasting : Lasting here P) (p : Policy) (issues : List Issue) :
    Keeps here P (Invocation.adviseAll p issues) := by
  induction issues with
  | nil => exact .pure []
  | cons issue rest ih => exact .bind (.perform lasting _) fun _ => .bind ih fun _ => .pure _

end

/-! What changes files only leaves the output alone. -/

theorem keeps_makeDirectories (written : String) : Keeps here Session.Fresh (makeDirectories written) := by
  refine .bind .session fun s => .bind .surroundings fun _ => .bind (fun _ fresh => fresh) fun _ => ?_
  split
  · exact .halt _
  · exact .pure ()

theorem keeps_writeText (written content : String) : Keeps here Session.Fresh (writeText written content) :=
  .bind .session fun _ => .bind .surroundings fun _ => .bind (.ofExcept _) fun _ _ fresh => fresh

/-! ## What a command prints -/

namespace Invocation

variable {i : Invocation}

theorem ends_printJson {c : Command} {value : Data} (finite : c.isExact = true → value.allFinite = true) :
    Ends here Session.Fresh (printJson value) fun s => c.Prints s.out := by
  rintro s ⟨-, blank⟩ _ _ ⟨⟩
  dsimp only
  rw [blank, String.empty_append]
  exact Command.prints_write finite

theorem ends_answer (json : i.json = true) {value : Data} (lines : List String)
    (finite : i.command.isExact = true → value.allFinite = true) :
    Ends here Session.Fresh (i.answer value lines) fun s => i.command.Prints s.out := by
  rw [answer, if_pos json]
  exact ends_printJson finite

variable {settings : Settings}

theorem ends_runInit {kind : ProjectKind} {language repo output : Option String} {force : Bool}
    (command : i.command = .init kind language repo output force) (json : i.json = true) :
    Ends here Session.Fresh (i.run settings) fun s => i.command.Prints s.out := by
  have found (path : String) : Keeps here Session.Fresh (hasFile path) := .bind .session fun _ => .bind .surroundings
    fun _ => .pure _
  rw [run, command]
  refine .bind (found _).ends fun there => ?_
  split
  · exact .halt _
  · refine .bind (Keeps.ofExcept _).ends fun p => .bind (keeps_makeDirectories _).ends fun _ =>
      .bind (Keeps.ofExcept _).ends fun text => .bind (keeps_writeText _ _).ends fun _ =>
      .bind (Keeps.note lasting_fresh _ _).ends fun _ => ?_
    rw [← command]
    exact ends_answer json _ fun _ => by simp

theorem ends_runValidate (command : i.command = .validate) (json : i.json = true) :
    Ends here Session.Fresh (i.run settings) fun s => i.command.Prints s.out := by
  have lasting : Lasting here Session.Fresh := lasting_fresh
  have loads := Policy.keeps_load lasting (i.documentPath settings)
  rw [run, command]
  simp only [runValidate, json, if_true]
  refine .bind loads.ends fun p => .bind (Keeps.perform lasting _).ends fun a => ?_
  have printed : Ends here Session.Fresh (printJson a.toData) fun s => Command.validate.Prints s.out :=
    ends_printJson fun _ => a.allFinite_toData
  refine .bind printed fun _ => ?_
  split
  · exact .pure ()
  · exact .halt _

/-- A command that looks at no snapshot prints. -/
theorem ends_run (evaluates : i.command.evaluates = false) (json : i.json = true) :
    Ends here Session.Fresh (i.run settings) fun s => i.command.Prints s.out := by
  cases command : i.command with
  | init => exact command ▸ ends_runInit command json
  | validate => exact command ▸ ends_runValidate command json
  | _ =>
      rw [command] at evaluates
      cases evaluates

/-- What comes behind the policy: a command that is switched off leaves a note only, and any other one prints. -/
theorem run_loadValid (settings : Settings) (evaluates : i.command.evaluates = true) (json : i.json = true) :
    ∃ rest, i.run settings = Policy.loadValid (i.documentPath settings) >>= rest ∧
      ∀ p, (i.command.isSwitchedOff p = true → ∃ text, rest p = note .warning text) ∧
        (i.command.isSwitchedOff p = false →
          ∀ here, Ends here Session.Fresh (rest p) fun s => i.command.Prints s.out) := by
  have load {here : Surroundings} {β : Type} (kind : RecordKind β) (path : String) :
      Ends here Session.Fresh (Snapshot.load kind path) Session.Fresh := (Snapshot.keeps_load kind path).ends
  have performed {here : Surroundings} {β : Type} (r : Run β) :
      Ends here Session.Fresh (perform r) Session.Fresh := (Keeps.perform lasting_fresh r).ends
  obtain ⟨command, document, _⟩ := i
  cases command with
  | init | validate => cases evaluates
  | infer issues number =>
      refine ⟨_, rfl, fun p => ⟨fun off => ⟨_, if_pos off⟩, fun on here => ?_⟩⟩
      change (!p.automation.inference.enabled) = false at on
      simp only [on]
      exact .bind (load _ _) fun _ => .bind (keeps_selectIssues _ _ _).ends fun _ =>
        .bind (keeps_adviseAll lasting_fresh _ _).ends fun _ => ends_answer json _ (by rintro ⟨⟩)
  | checkBlocked issues threshold =>
      refine ⟨_, rfl, fun p => ⟨fun off => ⟨_, if_pos off⟩, fun on here => ?_⟩⟩
      change (!p.automation.blocked.enabled) = false at on
      simp only [on]
      exact .bind (load _ _) fun _ => .bind Keeps.surroundings.ends fun _ => .bind (performed _) fun _ =>
        ends_answer json _ (by rintro ⟨⟩)
  | escalate issues labels apply =>
      refine ⟨_, rfl, fun p => ⟨by rintro ⟨⟩, fun _ here => ?_⟩⟩
      -- The labels are optional, so what is behind them is reached in two ways.
      cases labels.filter (· != "")
      case' none => refine .bind (.pure none) fun known => ?_
      case' some labels => refine .bind (load _ _) fun _ => .bind (.pure _) fun known => ?_
      all_goals
        exact .bind (load _ _) fun _ => .bind Keeps.surroundings.ends fun _ => .bind (performed _) fun decisions =>
          ends_answer json _ fun _ => by simp [List.all_map, Escalation.allFinite_toData]
  | planLabels labels =>
      refine ⟨_, rfl, fun p => ⟨by rintro ⟨⟩, fun _ here => ?_⟩⟩
      exact .bind (load _ _) fun _ => .bind (performed _) fun plan => ends_answer json _ fun _ =>
        plan.allFinite_toData fun _ => by simp [LabelSpec.toData]
  | planBoard columns =>
      refine ⟨_, rfl, fun p => ⟨by rintro ⟨⟩, fun _ here => ?_⟩⟩
      exact .bind (load _ _) fun _ => .bind (performed _) fun plan => ends_answer json _ fun _ =>
        plan.allFinite_toData fun _ => by simp [Column.toData]
  | report issues repo closed =>
      refine ⟨_, rfl, fun p => ⟨by rintro ⟨⟩, fun _ here => ?_⟩⟩
      refine .bind (load _ _) fun _ => .bind Keeps.surroundings.ends fun _ => .bind (performed _) fun r => ?_
      dsimp only at json
      rw [json]
      exact ends_printJson (by rintro ⟨⟩)

end Invocation

/-! ## What a run prints -/

namespace Policy

variable {s s' : Session}

/-- A policy that passes is the one of the text. -/
theorem of_run_vet {path text : String} {p : Policy} (vetted : (vet path text).run here s = (.ok p, s')) :
    (ofText text).result = .ok p := by
  obtain ⟨found, _, read, vetted⟩ := ok_of_bind vetted
  obtain ⟨-, _, -, vetted⟩ := ok_of_bind vetted
  obtain ⟨a, _, -, vetted⟩ := ok_of_bind vetted
  obtain ⟨-, _, -, vetted⟩ := ok_of_bind vetted
  have same : found = p := by
    cases valid : a.valid with
    | true =>
        rw [if_pos valid] at vetted
        exact Except.ok.inj (congrArg Prod.fst vetted)
    | false =>
        rw [if_neg (by simp [valid])] at vetted
        cases vetted
  exact same ▸ result_of_run_perform read

end Policy

namespace Program

variable {tree : FileTree} {settings : Settings} {i : Invocation}

/-- The document that a run reads holds a policy that switches the command off. -/
def SwitchedOff (here : Surroundings) (tree : FileTree) (settings : Settings) (i : Invocation) : Prop :=
  ∃ text p, ((readDocument settings i).run here (.initial tree)).1 = .ok text ∧
    (Policy.ofText text).result = .ok p ∧ i.command.isSwitchedOff p = true

/-- A halt is never explained as a good end. -/
theorem explain_ending (s : Session) (h : Halt) : (explain here s h).ending ≠ .exit 0 := by
  fun_cases explain here s h <;> rintro ⟨⟩

/-- A run that ends well found settings, and carried its command out. -/
theorem exists_run_of_exit {arguments : List String} (accepted : Invocation.ofArguments arguments = .ok i)
    (ended : (run here tree arguments).ending = .exit 0) :
    ∃ settings environment, Settings.load here.cwd tree here.environment = (.ok settings, environment) ∧
      (do setUpLog settings i.json; i.run settings : Job Unit).run { here with environment } (.initial tree) =
        (.ok (), (run here tree arguments).session) := by
  cases loaded : Settings.load here.cwd tree here.environment with
  | mk found environment =>
      cases found with
      | error fault =>
          rw [run, accepted] at ended
          change (execute here tree i).ending = _ at ended
          rw [execute, loaded] at ended
          dsimp only at ended
          split at ended <;> cases ended
      | ok settings =>
          refine ⟨settings, environment, rfl, ?_⟩
          rw [run_eq_finish accepted loaded, finish] at ended ⊢
          generalize (do setUpLog settings i.json; i.run settings : Job Unit).run { here with environment }
            (.initial tree) = y at ended ⊢
          obtain ⟨h | ⟨⟩, s⟩ := y
          · exact absurd ended (explain_ending s h)
          · rfl

theorem keeps_setUpLog (json : i.json = true) : Keeps here Session.Fresh (setUpLog settings i.json) := by
  rw [json]
  exact keeps_quiet_setUpLog ""

theorem fresh_initial (tree : FileTree) : (Session.initial tree).Fresh := ⟨initial_quiet tree, rfl⟩

/-- When a policy has passed, nothing has been printed. -/
theorem fresh_of_vetted {text : String} {p : Policy} {s s' : Session} (json : i.json = true)
    (read : (readDocument settings i).run here (.initial tree) = (.ok text, s))
    (vetted : (Policy.vet (i.documentPath settings) text).run here s = (.ok p, s')) : s'.Fresh := by
  have before := (keeps_readDocument lasting_fresh (keeps_setUpLog json)).ends _ (fresh_initial tree) text s read
  exact (Policy.keeps_vet lasting_fresh _ text).ends s before p s' vetted

/-- What a job of a run has printed when it comes to its end. -/
theorem shown_of_run {s : Session} (json : i.json = true)
    (ran : (do setUpLog settings i.json; i.run settings : Job Unit).run here (.initial tree) = (.ok (), s)) :
    SwitchedOff here tree settings i ∧ s.out = "" ∨ ¬SwitchedOff here tree settings i ∧ i.command.Prints s.out := by
  cases evaluates : i.command.evaluates with
  | true =>
      obtain ⟨rest, loads, behind⟩ := Invocation.run_loadValid settings evaluates json
      rw [run_eq_vet loads] at ran
      obtain ⟨text, s₁, read, ran⟩ := ok_of_bind ran
      obtain ⟨p, s₂, vetted, ran⟩ := ok_of_bind ran
      have found := Policy.of_run_vet vetted
      have fresh := fresh_of_vetted json read vetted
      cases off : i.command.isSwitchedOff p with
      | true =>
          obtain ⟨remark, only⟩ := (behind p).1 off
          rw [only] at ran
          exact .inl ⟨⟨text, p, congrArg Prod.fst read, found, off⟩,
            ((Keeps.note lasting_fresh _ _).ends s₂ fresh _ _ ran).2⟩
      | false =>
          refine .inr ⟨?_, (behind p).2 off _ s₂ fresh _ _ ran⟩
          -- Nothing else can be read, and nothing else can come of it.
          rintro ⟨text', p', read', found', off'⟩
          obtain rfl : text = text' := Except.ok.inj ((congrArg Prod.fst read).symm.trans read')
          obtain rfl : p = p' := Except.ok.inj (found.symm.trans found')
          exact absurd off' (by simp [off])
  | false =>
      refine .inr ⟨?_, ?_⟩
      · rintro ⟨-, p, -, -, off⟩
        rw [Command.evaluates_of_isSwitchedOff off] at evaluates
        cases evaluates
      · obtain ⟨⟨⟩, s₁, setUp, ran⟩ := ok_of_bind ran
        have fresh := (keeps_setUpLog json).ends _ (fresh_initial tree) _ s₁ setUp
        exact Invocation.ends_run evaluates json s₁ fresh _ _ ran

/-- A run that is asked for JSON and ends well prints one value, which is JSON exactly if every number in it is
finite. If the policy switches the command off, it prints nothing. -/
theorem run_prints {arguments : List String} (accepted : Invocation.ofArguments arguments = .ok i)
    (json : i.json = true) (ended : (run here tree arguments).ending = .exit 0) :
    ∃ settings environment, Settings.load here.cwd tree here.environment = (.ok settings, environment) ∧
      (SwitchedOff { here with environment } tree settings i ∧ (run here tree arguments).session.out = "" ∨
        ¬SwitchedOff { here with environment } tree settings i ∧
          i.command.Prints (run here tree arguments).session.out) := by
  obtain ⟨settings, environment, loaded, ran⟩ := exists_run_of_exit accepted ended
  exact ⟨settings, environment, loaded, shown_of_run json ran⟩

/-- The arguments for a first policy. -/
def beginning : List String := ["init", "--type", "library", "--output", "wf.yaml", "--json"]

def first : Invocation := ⟨.init .library none none (some "wf.yaml") false, none, true⟩

/-- Where there is no file yet, a first policy is written, and the run prints one value. -/
theorem first_prints : Invocation.ofArguments beginning = .ok first ∧ first.json = true ∧
    (run atRoot .empty beginning).ending = .exit 0 ∧
    first.command.Prints (run atRoot .empty beginning).session.out := by
  have accepted : Invocation.ofArguments beginning = .ok first := by rfl
  have ended : (run atRoot .empty beginning).ending = .exit 0 := by decide +kernel
  obtain ⟨settings, environment, -, shown⟩ := run_prints accepted rfl ended
  refine ⟨accepted, rfl, ended, ?_⟩
  rcases shown with ⟨⟨-, p, -, -, off⟩, -⟩ | ⟨-, prints⟩
  · cases off
  · exact prints

/-- A command that a policy without defects switches off ends well and prints nothing. -/
theorem run_switchedOff {arguments : List String} {environment : Table String} {text : String} {p : Policy} {a : Audit}
    (accepted : Invocation.ofArguments arguments = .ok i) (json : i.json = true)
    (loaded : Settings.load here.cwd tree here.environment = (.ok settings, environment))
    (read : ((readDocument settings i).run { here with environment } (.initial tree)).1 = .ok text)
    (found : (Policy.ofText text).result = .ok p) (audited : p.check.result = .ok a) (valid : a.valid = true)
    (off : i.command.isSwitchedOff p = true) :
    (run here tree arguments).ending = .exit 0 ∧ (run here tree arguments).session.out = "" := by
  have evaluates := Command.evaluates_of_isSwitchedOff off
  obtain ⟨rest, loads, behind⟩ := Invocation.run_loadValid settings evaluates json
  obtain ⟨remark, only⟩ := (behind p).1 off
  generalize document : (readDocument settings i).run { here with environment } (.initial tree) = x at read
  obtain ⟨_, s₁⟩ := x
  obtain rfl := read
  obtain ⟨s₂, vetted⟩ := Policy.run_vet found audited s₁
  rw [if_pos valid] at vetted
  have ran : (do setUpLog settings i.json; i.run settings : Job Unit).run { here with environment } (.initial tree) =
      (note .warning remark).run { here with environment } s₂ := by
    rw [run_eq_vet loads, run_bind_of_ok document, run_bind_of_ok vetted, only]
  rw [run_eq_finish accepted loaded, finish, ran]
  exact ⟨rfl, (Keeps.note lasting_fresh _ _ s₂ (fresh_of_vetted json document vetted)).2⟩

/-! A policy of few words with inference switched off. -/

def pausingSections : List (String × Data) :=
  let definition : Data := .record [("color", .text "ededed")]
  [("project", .record [("type", .text "library")]),
    ("labels", .record [("status", .record [("open", definition)]), ("priority", .record [("P0", definition)]),
      ("type", .record [("bug", definition)])]),
    ("automation", .record [("label_inference", .record [("enabled", .bool false)])])]

def pausingText : String :=
  "project:\n  type: library\nlabels:\n  status:\n    open:\n      color: ededed\n" ++
  "  priority:\n    P0:\n      color: ededed\n  type:\n    bug:\n      color: ededed\n" ++
  "automation:\n  label_inference:\n    enabled: false\n"

theorem outline_pausingSections : ∀ field ∈ pausingSections, Yaml.Outline 3 field.2 := by
  have only {n : ℕ} {key : String} {d : Data} (outline : Yaml.Outline n d) :
      Yaml.Outline (n + 1) (.record [(key, d)]) :=
    .record (by simp) (by simpa using outline)
  have text (s : String) : Yaml.Outline 0 (.text s) := .scalar rfl
  have labels : Yaml.Outline 3 (.record [("status", .record [("open", .record [("color", .text "ededed")])]),
      ("priority", .record [("P0", .record [("color", .text "ededed")])]),
      ("type", .record [("bug", .record [("color", .text "ededed")])])]) := by
    refine .record (by simp) ?_
    simp only [List.forall_mem_cons]
    exact ⟨only (only (text _)), only (only (text _)), only (only (text _)), by simp⟩
  simp only [pausingSections, List.forall_mem_cons]
  have enabled : Yaml.Outline 2 (.record [("label_inference", .record [("enabled", .bool false)])]) :=
    only (only (.scalar rfl))
  exact ⟨(only (text _)).mono (by decide), labels, enabled.mono (by decide), by simp⟩

theorem read_pausingText : Yaml.read pausingText = .ok (.record pausingSections) := by
  have written : Yaml.layout (.record pausingSections) = pausingText := by decide +kernel
  rw [← written]
  exact Yaml.read_layout_eq_self (by decide) outline_pausingSections (by decide) (by decide +kernel)
    (by decide +kernel) (by decide +kernel)

/-- The policy in a file, and a snapshot without issues beside it. -/
def pausing : FileTree :=
  (FileTree.empty.put ["wf.yaml"] (.file (Text.Utf8.encode pausingText))).put ["i.json"]
    (.file (Text.Utf8.encode "[]"))

/-- An inference by that policy. -/
def inferenceJson : Invocation := ⟨.infer "i.json" none, some "wf.yaml", true⟩

theorem read_pausing : ((readDocument Settings.standard inferenceJson).run atRoot (.initial pausing)).1 =
    .ok pausingText := by
  obtain ⟨s, before, same⟩ : ∃ s, (do
      setUpLog Settings.standard inferenceJson.json
      note .debug s!"Loading workflow config from {inferenceJson.documentPath Settings.standard}" : Job Unit).run
      atRoot (.initial pausing) = (.ok (), s) ∧ s.tree = pausing :=
    ⟨_, rfl, rfl⟩
  have located : s.tree.locate atRoot.cwd "wf.yaml" = .ok ["wf.yaml"] := by
    rw [same]
    rfl
  have kept : s.tree.get? ["wf.yaml"] = some (.file (Text.Utf8.encode pausingText)) := by
    rw [same, pausing, FileTree.get?_put _ _ _ _ (List.cons_ne_nil _ _), if_neg (by decide),
      FileTree.get?_put _ _ _ _ (List.cons_ne_nil _ _), if_pos rfl]
  have plain : '\r' ∉ pausingText.toList := by decide +kernel
  have stored := run_readText (FileTree.find_eq_ok_iff.2 ⟨located, kept⟩) (Text.ofStored_encode plain)
  rw [readDocument_eq, run_bind_of_ok before]
  exact congrArg Prod.fst stored

/-- Its arguments. -/
def inferringJson : List String := ["infer", "--json", "--config", "wf.yaml", "i.json"]

/-- The inference is asked for JSON and ends well, but prints no value. -/
theorem pausing_prints_nothing : (∃ i, Invocation.ofArguments inferringJson = .ok i ∧ i.json = true) ∧
    (run atRoot pausing inferringJson).ending = .exit 0 ∧
    ¬∃ document, Json.IsJson document ∧ (run atRoot pausing inferringJson).session.out = document ++ "\n" := by
  have accepted : Invocation.ofArguments inferringJson = .ok inferenceJson := by rfl
  have outcome : ((Policy.ofData (.record pausingSections)).result.toOption.bind fun p =>
      p.check.result.toOption.map fun a => (p.automation.inference.enabled, a.valid)) = some (false, true) := by
    decide +kernel
  obtain ⟨p, found, outcome⟩ := Option.bind_eq_some_iff.1 outcome
  obtain ⟨a, audited, flags⟩ := Option.map_eq_some_iff.1 outcome
  obtain ⟨off, valid⟩ := Prod.mk.inj flags
  have answered : (Policy.ofText pausingText).result = .ok p := by
    rw [Policy.ofText, read_pausingText]
    exact eq_ok_of_toOption found
  have silent : (run atRoot pausing inferringJson).ending = .exit 0 ∧
      (run atRoot pausing inferringJson).session.out = "" :=
    run_switchedOff accepted rfl (by rfl) read_pausing answered (eq_ok_of_toOption audited) valid
      (by simp [Command.isSwitchedOff, inferenceJson, off])
  refine ⟨⟨_, accepted, rfl⟩, silent.1, ?_⟩
  rintro ⟨document, -, printed⟩
  rw [silent.2] at printed
  exact absurd (congrArg String.toList printed).symm (by simp)

end Program

end Triage
