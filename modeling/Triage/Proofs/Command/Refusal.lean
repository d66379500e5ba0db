import Triage.Program
import Triage.Proofs.Command.Job

/-!
# Refusing a policy that is not fit

A command that looks at snapshots refuses a policy document that is malformed or has defects before it looks at
any. How it ends and what it prints is the same whatever is in the snapshots.
-/

namespace Triage

open Job

/-! ## Snapshots of a command -/

namespace Command

/-- The command looks at snapshots in the light of a policy. -/
def evaluates : Command → Bool
  | .init .. | .validate => false
  | _ => true

/-- The written paths of the snapshots that a command looks at. -/
def snapshots : Command → List String
  | .init .. | .validate => []
  | .infer issues _ | .checkBlocked issues _ | .report issues _ _ => [issues]
  | .escalate issues labels _ => (labels.filter (· != "")).toList ++ [issues]
  | .planLabels labels => [labels]
  | .planBoard columns => [columns]

end Command

/-- Where the snapshots of a command are, unless there is a directory. There need not be anything. -/
def Invocation.snapshotFiles (i : Invocation) (cwd : Path) (tree : FileTree) : List Path :=
  (i.command.snapshots.map (Path.resolve cwd)).filter fun p => tree.get? p != some .directory

/-! ## Policies that are not fit -/

/-- A document at a path holds no policy, or one with defects; the lines tell what is wrong. -/
inductive Unfit (path text : String) : List String → Prop
  | malformed {problems : List Problem} (read : (Policy.ofText text).result = .error (.policy problems)) :
      Unfit path text ("Workflow config error:" :: problems.map fun p => "  " ++ p.message)
  | flawed {p : Policy} {a : Audit} (read : (Policy.ofText text).result = .ok p) (audited : p.check.result = .ok a)
      (invalid : a.valid = false) : Unfit path text [Policy.refusal path a]

namespace Policy

/-- What is done with the text of a document at a path. -/
def vet (path text : String) : Job Policy := do
  let p ← perform (ofText text)
  modify fun s => { s with log := s.log.setContext p.project.repo none }
  let a ← perform p.check
  warnAll a.warnings
  if a.valid then return p else refuse (refusal path a)

theorem loadValid_eq (path : String) : loadValid path = (do
    note .debug s!"Loading workflow config from {path}"
    let text ← readText (Path.tidy path)
    vet path text) := by
  simp only [loadValid, load, vet, bind_assoc, pure_bind]

variable {here : Surroundings} {files : List Path} {P : Session → Prop}

theorem blind_warnAll (warnings : List Warning) : Blind here files (warnAll warnings) := by
  induction warnings with
  | nil => exact .pure ()
  | cons w rest ih => exact .bind (.note _ _) fun _ => ih

theorem keeps_warnAll (lasting : Lasting here P) (warnings : List Warning) : Keeps here P (warnAll warnings) := by
  induction warnings with
  | nil => exact .pure ()
  | cons w rest ih => exact .bind (.note lasting _ _) fun _ => ih

theorem blind_vet (path text : String) : Blind here files (vet path text) := by
  refine .bind (.perform _) fun p => .bind (.setContext _) fun _ => .bind (.perform _) fun a =>
    .bind (blind_warnAll _) fun _ => ?_
  split
  · exact .pure p
  · exact .halt _

theorem keeps_vet (lasting : Lasting here P) (path text : String) : Keeps here P (vet path text) := by
  refine .bind (.perform lasting _) fun p => .bind (fun s holds => lasting.setContext _ s holds) fun _ =>
    .bind (.perform lasting _) fun a => .bind (keeps_warnAll lasting _) fun _ => ?_
  split
  · exact .pure p
  · exact .halt _

theorem keeps_load (lasting : Lasting here P) (path : String) : Keeps here P (load path) :=
  .bind (.note lasting _ _) fun _ => .bind (.readText _) fun _ => .bind (.perform lasting _) fun _ =>
    .bind (fun s holds => lasting.setContext _ s holds) fun _ => .pure _

theorem keeps_loadValid (lasting : Lasting here P) (path : String) : Keeps here P (loadValid path) := by
  rw [loadValid_eq]
  exact .bind (.note lasting _ _) fun _ => .bind (.readText _) fun _ => keeps_vet lasting _ _

theorem run_warnAll (warnings : List Warning) (s : Session) :
    ∃ s', (warnAll warnings).run here s = (.ok (), s') := by
  induction warnings generalizing s with
  | nil => exact ⟨s, rfl⟩
  | cons w rest ih => exact ih _

/-- A policy that is read passes or is refused for its audit. -/
theorem run_vet {path text : String} {p : Policy} {a : Audit} (read : (ofText text).result = .ok p)
    (audited : p.check.result = .ok a) (s : Session) : ∃ s', (vet path text).run here s =
      (if a.valid then .ok p else .error (.refused (refusal path a)), s') := by
  rw [vet, run_bind_of_ok (run_perform_of_ok read), run_bind_of_ok (run_modify _),
    run_bind_of_ok (run_perform_of_ok audited)]
  obtain ⟨s', warned⟩ := run_warnAll a.warnings _
  rw [run_bind_of_ok warned]
  cases a.valid with
  | true => exact ⟨s', rfl⟩
  | false => exact ⟨s', rfl⟩

end Policy

/-- A halt for which a run ends with exit code one, with given lines behind all that was on the error output. -/
def Halt.Tells (h : Halt) (lines : List String) : Prop :=
  ∀ here s, ∃ behind, Program.explain here s h = ⟨.exit 1, Program.told lines behind⟩ ∧
    (behind = s ∨ behind = noted here ⟨.error, .command, "Command failed"⟩ s)

theorem Halt.tells_refused (message : String) : (Halt.refused message).Tells [message] := by
  intro here s
  cases debug : s.log.isDebug with
  | true => exact ⟨_, by rw [Program.explain, debug]; rfl, .inr rfl⟩
  | false => exact ⟨_, by rw [Program.explain, debug]; rfl, .inl rfl⟩

theorem Halt.tells_policy (problems : List Problem) : (Halt.fault (.policy problems)).Tells
    ("Workflow config error:" :: problems.map fun p => "  " ++ p.message) :=
  fun _ s => ⟨s, rfl, .inl rfl⟩

/-- A policy that is not fit is refused for a reason that tells what is wrong. -/
theorem Unfit.run_vet {path text : String} {lines : List String} (unfit : Unfit path text lines)
    (here : Surroundings) (s : Session) :
    ∃ h, ((Policy.vet path text).run here s).1 = .error h ∧ h.Tells lines := by
  cases unfit with
  | malformed read =>
      refine ⟨_, ?_, Halt.tells_policy _⟩
      rw [Policy.vet, run_bind, run_perform, read]
      rfl
  | flawed read audited invalid =>
      obtain ⟨s', vetted⟩ := Policy.run_vet read audited s
      rw [invalid] at vetted
      exact ⟨_, congrArg Prod.fst vetted, Halt.tells_refused _⟩

/-! ## Runs of the program -/

namespace Program

/-- What is done before the policy is looked at: the log is set up, and the document is read. -/
def readDocument (settings : Settings) (i : Invocation) : Job String := do
  setUpLog settings i.json
  note .debug s!"Loading workflow config from {i.documentPath settings}"
  readText (Path.tidy (i.documentPath settings))

theorem readDocument_eq (settings : Settings) (i : Invocation) : readDocument settings i = (do
    setUpLog settings i.json
    note .debug s!"Loading workflow config from {i.documentPath settings}") >>= fun _ =>
      readText (Path.tidy (i.documentPath settings)) := by
  rw [readDocument, bind_assoc]

theorem run_eq_vet {i : Invocation} {settings : Settings} {rest : Policy → Job Unit}
    (loads : i.run settings = Policy.loadValid (i.documentPath settings) >>= rest) :
    (do setUpLog settings i.json; i.run settings) = readDocument settings i >>= fun text =>
      Policy.vet (i.documentPath settings) text >>= rest := by
  simp only [loads, readDocument, Policy.loadValid_eq, bind_assoc]

theorem run_eq {i : Invocation} (evaluates : i.command.evaluates = true) (settings : Settings) :
    ∃ rest, (do setUpLog settings i.json; i.run settings) = readDocument settings i >>= fun text =>
      Policy.vet (i.documentPath settings) text >>= rest := by
  have loads : ∃ rest, i.run settings = Policy.loadValid (i.documentPath settings) >>= rest := by
    rw [Invocation.run]
    cases command : i.command with
    | init => rw [command] at evaluates; cases evaluates
    | validate => rw [command] at evaluates; cases evaluates
    | _ => exact ⟨_, rfl⟩
  obtain ⟨rest, loads⟩ := loads
  exact ⟨rest, run_eq_vet loads⟩

variable {here : Surroundings} {files : List Path} {tree tree' : FileTree} {settings : Settings} {i : Invocation}

/-! ### Setting the log up -/

/-- The log as the settings set it up, with the tree and what was wrong with the log file. -/
def logSetUp (here : Surroundings) (settings : Settings) (quiet : Bool) (s : Session) :
    Log × FileTree × Option AccessFault :=
  s.log.setUp here.cwd (here.environment.get? "LOG_LEVEL") settings.logFile settings.logSize settings.logBackups quiet
    s.tree

/-- How setting the log up ends. -/
def afterSetUp (s : Session) : Log × FileTree × Option AccessFault → Except Halt Unit × Session
  | (log, tree, none) => (.ok (), { s with log, tree })
  | (log, tree, some f) =>
    if f.problem = .zero then (.error (.fault (.access f)), { s with log, tree })
    else (.ok (), { s with log, tree, err := s.err ++ Log.fileFaultLine f })

theorem run_setUpLog (settings : Settings) (quiet : Bool) (s : Session) :
    (setUpLog settings quiet).run here s = afterSetUp s (logSetUp here settings quiet s) := by
  rw [setUpLog, run_bind_of_ok (x := surroundings) rfl, run_bind_of_ok (x := session) rfl, logSetUp]
  obtain ⟨log, tree, _ | f⟩ := s.log.setUp here.cwd (here.environment.get? "LOG_LEVEL") settings.logFile
    settings.logSize settings.logBackups quiet s.tree
  · rfl
  · rw [afterSetUp, run_bind_of_ok (run_modify _)]
    dsimp only
    split <;> rfl

/-- Setting the log up leaves the output alone, and makes the log what it should be. -/
theorem afterSetUp_snd (s : Session) (set : Log × FileTree × Option AccessFault) :
    (afterSetUp s set).2.out = s.out ∧ (afterSetUp s set).2.log = set.1 := by
  obtain ⟨log, tree, _ | f⟩ := set
  · exact ⟨rfl, rfl⟩
  · rw [afterSetUp]
    split <;> exact ⟨rfl, rfl⟩

theorem blind_setUpLog (quiet : Bool)
    (other : settings.logFile ≠ "" →
      ∀ p ∈ LogFile.kept here.cwd settings.logFile settings.logBackups (LogFile.dayOf here.now), p ∉ files)
    (apart : settings.logFile ≠ "" → ∀ p ∈ LogFile.ways here.cwd settings.logFile, p ∉ files) :
    Blind here files (setUpLog settings quiet) := by
  intro s s' alike
  rw [run_setUpLog, run_setUpLog]
  have set := Log.setUp_alike s.log (here.environment.get? "LOG_LEVEL") settings.logSize quiet alike.tree other apart
  rw [logSetUp, logSetUp, ← alike.log]
  revert set
  generalize s.log.setUp _ _ _ _ _ _ s.tree = x
  generalize s.log.setUp _ _ _ _ _ _ s'.tree = y
  obtain ⟨log, tree, fault⟩ := x
  obtain ⟨_, tree', _⟩ := y
  rintro ⟨rfl, rfl, like, avoids⟩
  cases fault with
  | none => exact ⟨rfl, rfl, alike.out, alike.err, like, avoids⟩
  | some f =>
      rw [afterSetUp, afterSetUp]
      split
      · exact ⟨rfl, rfl, alike.out, alike.err, like, avoids⟩
      · exact ⟨rfl, rfl, alike.out, congrArg (· ++ _) alike.err, like, avoids⟩

/-! ### Settings and the document -/

/-- Settings are the same whatever is in files other than theirs. -/
theorem load_alike (alike : tree.AlikeExcept files tree') {cwd : Path} (environment : Table String)
    (other : Path.resolve cwd (Path.text (cwd ++ Settings.fileName)) ∉ files) :
    Settings.load cwd tree environment = Settings.load cwd tree' environment := by
  have same : Settings.ofFile? cwd tree = Settings.ofFile? cwd tree' := by
    rw [Settings.ofFile?, Settings.ofFile?]
    simp only [FileTree.read]
    cases found : tree.find cwd (Path.text (cwd ++ Settings.fileName)) with
    | ok entry =>
        obtain ⟨p, e⟩ := entry
        have place : p ∉ files := FileTree.eq_resolve_of_locate (FileTree.find_eq_ok_iff.1 found).1 ▸ other
        rw [alike.find found place]
    | error problem =>
        cases found' : tree'.find cwd (Path.text (cwd ++ Settings.fileName)) with
        | error problem' => rfl
        | ok entry =>
            obtain ⟨p, e⟩ := entry
            have place : p ∉ files := FileTree.eq_resolve_of_locate (FileTree.find_eq_ok_iff.1 found').1 ▸ other
            rw [alike.symm.find found' place] at found
            cases found
  rw [Settings.load, Settings.load, same]

/-- The files that a run reads or writes apart from snapshots: the settings file, the document, and the log file
with those that are put away. -/
def ownFiles (here : Surroundings) (settings : Settings) (i : Invocation) : List Path :=
  [Path.resolve here.cwd (Path.text (here.cwd ++ Settings.fileName)),
    Path.resolve here.cwd (Path.tidy (i.documentPath settings))]
  ++ if settings.logFile = "" then []
    else LogFile.kept here.cwd settings.logFile settings.logBackups (LogFile.dayOf here.now)

/-- The places that are looked at on the way to the log file. -/
def logWays (here : Surroundings) (settings : Settings) : List Path :=
  if settings.logFile = "" then [] else LogFile.ways here.cwd settings.logFile

/-- A document that is read is read in the same way whatever is in files at other places. -/
theorem run_readDocument_alike (here : Surroundings) (elsewhere : ∀ p ∈ ownFiles here settings i, p ∉ files)
    (apart : ∀ p ∈ logWays here settings, p ∉ files) {s s' : Session}
    (alike : Session.Alike (LogFile.dayOf here.now) files s s') {text : String}
    (read : ((readDocument settings i).run here s).1 = .ok text) :
    ((readDocument settings i).run here s').1 = .ok text ∧ Session.Alike (LogFile.dayOf here.now) files
      ((readDocument settings i).run here s).2 ((readDocument settings i).run here s').2 := by
  have otherFiles : settings.logFile ≠ "" →
      ∀ p ∈ LogFile.kept here.cwd settings.logFile settings.logBackups (LogFile.dayOf here.now), p ∉ files := by
    intro given p member
    refine elsewhere p (List.mem_append_right _ ?_)
    rwa [if_neg given]
  have otherWays : settings.logFile ≠ "" → ∀ p ∈ LogFile.ways here.cwd settings.logFile, p ∉ files := by
    intro given p member
    refine apart p ?_
    rwa [logWays, if_neg given]
  have document : Path.resolve here.cwd (Path.tidy (i.documentPath settings)) ∉ files :=
    elsewhere _ (List.mem_append_left _ (List.mem_cons_of_mem _ (List.mem_singleton_self _)))
  rw [readDocument_eq] at read ⊢
  exact Blind.bind_readText (.bind (blind_setUpLog i.json otherFiles otherWays) fun _ => .note _ _) document alike read

/-! ### What a run comes to -/

/-- A run that ends with exit code one and shows no answer: what is on the output comes from the log, and given
lines are the last ones on the error output. -/
structure Refuses (o : Outcome) (json : Bool) (lines : List String) : Prop where
  ending : o.ending = .exit 1
  shown : Log.Lines o.session.out
  quiet : json = true → o.session.out = ""
  told : ∃ before, o.session.err = before ++ String.join (lines.map (· ++ "\n"))

/-- Two runs that nobody can tell apart by how they end and what they print. -/
structure LooksLike (o o' : Outcome) : Prop where
  ending : o.ending = o'.ending
  out : o.session.out = o'.session.out
  err : o.session.err = o'.session.err

theorem told_alike (lines : List String) (ending : Ending) {s s' : Session}
    (alike : Session.Alike (LogFile.dayOf here.now) files s s') :
    LooksLike ⟨ending, told lines s⟩ ⟨ending, told lines s'⟩ :=
  ⟨rfl, alike.out, congrArg (· ++ _) alike.err⟩

theorem explain_alike (h : Halt) {s s' : Session} (alike : Session.Alike (LogFile.dayOf here.now) files s s') :
    LooksLike (explain here s h) (explain here s' h) := by
  cases h with
  | rejected => exact ⟨rfl, alike.out, alike.err⟩
  | notJson problem place => exact told_alike _ _ alike
  | refused message =>
      rw [explain, explain, ← alike.log]
      cases s.log.isDebug with
      | true => exact told_alike _ _ (noted_alike alike _)
      | false => exact told_alike _ _ alike
  | fault f =>
      cases f with
      | policy problems => exact told_alike _ _ alike
      | access f =>
          obtain ⟨problem, written⟩ := f
          cases problem with
          | missing => exact told_alike _ _ alike
          | _ => exact ⟨rfl, alike.out, alike.err⟩
      | _ => exact ⟨rfl, alike.out, alike.err⟩

/-- With its settings, a run carries out the command. -/
theorem run_eq_finish {arguments : List String} {environment : Table String}
    (accepted : Invocation.ofArguments arguments = .ok i)
    (loaded : Settings.load here.cwd tree here.environment = (.ok settings, environment)) :
    run here tree arguments =
      finish { here with environment } (.initial tree) (do setUpLog settings i.json; i.run settings) := by
  rw [run, accepted]
  change execute here tree i = _
  rw [execute, loaded]

/-- A run on a policy that does not pass ends with the reason. -/
theorem run_eq_explain {arguments : List String} {environment : Table String} {text : String} {h : Halt}
    (accepted : Invocation.ofArguments arguments = .ok i) (evaluates : i.command.evaluates = true)
    (loaded : Settings.load here.cwd tree here.environment = (.ok settings, environment))
    (read : ((readDocument settings i).run { here with environment } (.initial tree)).1 = .ok text)
    (halts : ((Policy.vet (i.documentPath settings) text).run { here with environment }
      ((readDocument settings i).run { here with environment } (.initial tree)).2).1 = .error h) :
    run here tree arguments = explain { here with environment }
      ((Policy.vet (i.documentPath settings) text).run { here with environment }
        ((readDocument settings i).run { here with environment } (.initial tree)).2).2 h := by
  obtain ⟨rest, goes⟩ := run_eq evaluates settings
  have halted : (do setUpLog settings i.json; i.run settings : Job Unit).run { here with environment } (.initial tree) =
      (.error h, ((Policy.vet (i.documentPath settings) text).run { here with environment }
        ((readDocument settings i).run { here with environment } (.initial tree)).2).2) := by
    rw [goes, run_bind_of_ok (Prod.ext read rfl), run_bind_of_error (Prod.ext halts rfl)]
  rw [run_eq_finish accepted loaded, finish, halted]

/-! ### What is on the output -/

variable {P : Session → Prop}

theorem keeps_readDocument (lasting : Lasting here P) (first : Keeps here P (setUpLog settings i.json)) :
    Keeps here P (readDocument settings i) :=
  .bind first fun _ => .bind (.note lasting _ _) fun _ => .readText _

theorem keeps_lines_setUpLog (quiet : Bool) : Keeps here (fun s => Log.Lines s.out) (setUpLog settings quiet) := by
  intro s lines
  rw [run_setUpLog, (afterSetUp_snd s _).1]
  exact lines

theorem keeps_quiet_setUpLog (out : String) :
    Keeps here (fun s => s.log.IsQuiet ∧ s.out = out) (setUpLog settings true) := by
  rintro s ⟨-, rfl⟩
  rw [run_setUpLog, (afterSetUp_snd s _).1, (afterSetUp_snd s _).2]
  exact ⟨Log.setUp_quiet _ _, rfl⟩

theorem initial_quiet (tree : FileTree) : (Session.initial tree).log.IsQuiet := by
  rintro _ ⟨⟩

/-- An evaluation of snapshots refuses a policy that is malformed or has defects. It tells all that is wrong with
the policy, in order, shows no answer, and looks the same whatever is in the snapshots. -/
theorem run_unfit {arguments : List String} {environment : Table String} {text : String} {lines : List String}
    (accepted : Invocation.ofArguments arguments = .ok i) (evaluates : i.command.evaluates = true)
    (loaded : Settings.load here.cwd tree here.environment = (.ok settings, environment))
    (read : ((readDocument settings i).run { here with environment } (.initial tree)).1 = .ok text)
    (unfit : Unfit (i.documentPath settings) text lines)
    (elsewhere : ∀ p ∈ ownFiles here settings i, p ∉ i.snapshotFiles here.cwd tree)
    (apart : ∀ p ∈ logWays here settings, p ∉ i.snapshotFiles here.cwd tree) :
    Refuses (run here tree arguments) i.json lines ∧
      ∀ tree', tree.AlikeExcept (i.snapshotFiles here.cwd tree) tree' →
        LooksLike (run here tree arguments) (run here tree' arguments) := by
  obtain ⟨h, halts, tells⟩ := unfit.run_vet { here with environment }
    ((readDocument settings i).run { here with environment } (.initial tree)).2
  have ended := run_eq_explain accepted evaluates loaded read halts
  constructor
  · obtain ⟨behind, told, same⟩ := tells { here with environment } ((Policy.vet (i.documentPath settings) text).run
      { here with environment } ((readDocument settings i).run { here with environment } (.initial tree)).2).2
    -- what every step keeps from the start on also holds behind the refusal
    have lasts {P : Session → Prop} (lasting : Lasting { here with environment } P)
        (first : Keeps { here with environment } P (setUpLog settings i.json)) (start : P (.initial tree)) :
        P behind := by
      have vetted := Policy.keeps_vet lasting (i.documentPath settings) text _
        (keeps_readDocument lasting first _ start)
      rcases same with rfl | rfl
      · exact vetted
      · exact lasting.noted _ _ vetted
    rw [ended, told]
    refine ⟨rfl, ?_, fun json => ?_, _, rfl⟩
    · exact lasts (lasting_lines _) (keeps_lines_setUpLog _) .none
    · exact (lasts (lasting_quiet _ "") (json ▸ keeps_quiet_setUpLog "") ⟨initial_quiet tree, rfl⟩).2
  · intro tree' alike
    have start : Session.Alike (LogFile.dayOf here.now) (i.snapshotFiles here.cwd tree) (.initial tree)
        (.initial tree') :=
      ⟨rfl, rfl, rfl, alike, by rintro _ _ ⟨⟩⟩
    have loaded' := load_alike alike here.environment (elsewhere _ (List.mem_append_left _ (List.mem_cons_self ..)))
    obtain ⟨read', after⟩ := run_readDocument_alike { here with environment } elsewhere apart start read
    obtain ⟨same, vetted⟩ := Policy.blind_vet (i.documentPath settings) text _ _ after
    have ended' := run_eq_explain accepted evaluates (loaded'.symm.trans loaded) read' (same ▸ halts)
    rw [ended, ended']
    exact explain_alike h vetted

/-- A program that is told to keep a log file. -/
def logging (file : String) : Surroundings := ⟨[], .ofList [("LOG_FILE", file)], default⟩

/-- The settings of such a program. -/
def loggingTo (file : String) : Settings := { Settings.standard with logFile := file }

/-- A document that ends too early, and a snapshot beside it. -/
def unfinished : FileTree :=
  (FileTree.empty.put ["wf.yaml"] (.file (Text.Utf8.encode "["))).put ["i.json"] (.file (Text.Utf8.encode "[]"))

/-- The arguments of an inference by that document. -/
def inferring : List String := ["infer", "--config", "wf.yaml", "i.json"]

def inference : Invocation := ⟨.infer "i.json" none, some "wf.yaml", false⟩

/-- What the user is told about that document. -/
def complaint : List String := ["Workflow config error:",
  "  YAML syntax error at line 1, column 2: expected the node content, but found '<stream end>'"]

theorem unfit_unfinished : Unfit "wf.yaml" "[" complaint := by
  have accepted : "[".toList.findIdx? (!Yaml.isAcceptable ·) = none := by decide
  have parsed : Yaml.Node.ofText "[" =
      .error (.malformed (.expectedToken "the node content" "<stream end>") ⟨1, 0, 1⟩) := by rfl
  have read : (Policy.ofText "[").result = .error (.policy
      [.form (.malformed (.expectedToken "the node content" "<stream end>") ⟨1, 0, 1⟩)]) := by
    rw [Policy.ofText, Yaml.read, accepted, parsed]
    rfl
  exact .malformed read

/-- With a log file elsewhere, an inference by the document tells that it ends too early, whatever the snapshot
holds. -/
theorem unfinished_is_refused : inference.snapshotFiles [] unfinished = [["i.json"]] ∧
    Refuses (run (logging "app.log") unfinished inferring) false complaint ∧
    ∀ tree', unfinished.AlikeExcept (inference.snapshotFiles [] unfinished) tree' →
      LooksLike (run (logging "app.log") unfinished inferring) (run (logging "app.log") tree' inferring) := by
  have accepted : Invocation.ofArguments inferring = .ok inference := by rfl
  have loaded : Settings.load [] unfinished (logging "app.log").environment =
      (.ok (loggingTo "app.log"), (logging "app.log").environment) := by
    rfl
  have read := eq_ok_of_toOption (x := ((readDocument (loggingTo "app.log") inference).run (logging "app.log")
    (.initial unfinished)).1) (a := "[") (by decide +kernel)
  have elsewhere : ∀ p ∈ ownFiles (logging "app.log") (loggingTo "app.log") inference,
      p ∉ inference.snapshotFiles [] unfinished := by
    decide +kernel
  have apart : ∀ p ∈ logWays (logging "app.log") (loggingTo "app.log"),
      p ∉ inference.snapshotFiles [] unfinished := by
    decide +kernel
  exact ⟨by decide +kernel, run_unfit accepted rfl loaded read unfit_unfinished elsewhere apart⟩

/-- With a log file that leads through the snapshot, the user is told of a snapshot that is there, though it is
none of the files that the run reads or writes. -/
theorem snapshot_in_the_way : Invocation.ofArguments inferring = .ok inference ∧
    Settings.load [] unfinished (logging "i.json/app.log").environment =
      (.ok (loggingTo "i.json/app.log"), (logging "i.json/app.log").environment) ∧
    ((readDocument (loggingTo "i.json/app.log") inference).run (logging "i.json/app.log")
      (.initial unfinished)).1 = .ok "[" ∧
    Unfit "wf.yaml" "[" complaint ∧
    (∀ p ∈ ownFiles (logging "i.json/app.log") (loggingTo "i.json/app.log") inference,
      p ∉ inference.snapshotFiles [] unfinished) ∧
    ∃ tree', unfinished.AlikeExcept (inference.snapshotFiles [] unfinished) tree' ∧
      ¬LooksLike (run (logging "i.json/app.log") unfinished inferring)
        (run (logging "i.json/app.log") tree' inferring) := by
  refine ⟨rfl, rfl, eq_ok_of_toOption (by decide +kernel), unfit_unfinished, by decide +kernel,
    unfinished.remove ["i.json"], ?_, ?_⟩
  · have files : inference.snapshotFiles [] unfinished = [["i.json"]] := by decide +kernel
    rw [files]
    constructor
    · intro q other
      rw [FileTree.get?_remove _ _ _ (List.cons_ne_nil _ _), if_neg (fun same => other (List.mem_singleton.2 same))]
    · intro q named
      rw [List.mem_singleton.1 named]
      decide +kernel
    · intro q named
      rw [List.mem_singleton.1 named, FileTree.get?_remove _ _ _ (List.cons_ne_nil _ _), if_pos rfl]
      exact (Option.some_ne_none _).symm
  · intro like
    have there : (run (logging "i.json/app.log") unfinished inferring).session.err =
        Log.fileFaultLine ⟨.present, "i.json"⟩ ++ String.join (complaint.map (· ++ "\n")) := by
      decide +kernel
    have absent : (run (logging "i.json/app.log") (unfinished.remove ["i.json"]) inferring).session.err =
        String.join (complaint.map (· ++ "\n")) := by
      decide +kernel
    have same := like.err
    rw [there, absent] at same
    exact absurd same (by decide +kernel)

end Program

end Triage
