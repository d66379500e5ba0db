import Triage.Proofs.Command.Answer

/-!
# Files that a run writes

A run writes the log file with those that are put away, and the document of a starter policy. What is at any other
path stays as it is, except that directories are made where nothing was. Without force a document within reach stays,
too.
-/

namespace Triage

open Job
open Snapshot (atRoot)

/-- A path is left alone: what was there is there, and the log does not write there on a day. -/
structure Session.Spares (day : String) (tree : FileTree) (q : Path) (s : Session) : Prop where
  untouched : tree.Untouched s.tree q
  avoids : s.log.Avoids day [q]

variable {here : Surroundings} {tree : FileTree} {q : Path}

theorem lasting_spares (here : Surroundings) (tree : FileTree) (q : Path) :
    Lasting here (Session.Spares (LogFile.dayOf here.now) tree q) where
  noted n s spares := by
    have same := spares.avoids.get?_emit (r := ⟨n.level.number, n.origin.name, n.text, here.now⟩)
      (List.mem_singleton_self q) s.tree
    exact ⟨spares.untouched.trans (.inl same), spares.avoids⟩
  setContext _ _ spares := ⟨spares.untouched, spares.avoids⟩

/-! ## Steps of a job -/

namespace Job

variable {day : String}

theorem keeps_spares_print (text : String) : Keeps here (Session.Spares day tree q) (print text) :=
  fun _ spares => ⟨spares.untouched, spares.avoids⟩

theorem keeps_spares_printLines (lines : List String) :
    Keeps here (Session.Spares day tree q) (printLines lines) := by
  induction lines with
  | nil => exact .pure ()
  | cons line rest ih => exact .bind (keeps_spares_print _) fun _ => ih

theorem keeps_spares_answer (i : Invocation) (value : Data) (lines : List String) :
    Keeps here (Session.Spares day tree q) (i.answer value lines) := by
  rw [Invocation.answer]
  split
  · exact keeps_spares_print _
  · exact keeps_spares_printLines lines

/-- Directories are made, and nothing else is done. -/
theorem run_makeDirectories_snd (written : String) (s : Session) :
    ((makeDirectories written).run here s).2 = { s with tree := (s.tree.makeDirectories here.cwd written).1 } := by
  rw [makeDirectories, run_bind_of_ok (x := session) rfl, run_bind_of_ok (x := surroundings) rfl]
  generalize s.tree.makeDirectories here.cwd written = made
  obtain ⟨tree, _ | f⟩ := made
  · rfl
  · rfl

theorem keeps_spares_makeDirectories (written : String) :
    Keeps here (Session.Spares day tree q) (makeDirectories written) := by
  intro s spares
  rw [run_makeDirectories_snd]
  exact ⟨spares.untouched.trans (s.tree.untouched_makeDirectories here.cwd written q), spares.avoids⟩

/-- A text is written where its path leads, and nothing else is done. -/
theorem keeps_spares_writeText {written : String} (content : String) (other : q ≠ Path.resolve here.cwd written) :
    Keeps here (Session.Spares day tree q) (writeText written content) := by
  intro s spares
  change Session.Spares day tree q ((ofExcept
    ((s.tree.write here.cwd written (Text.Utf8.encode content)).mapError Fault.access) >>= fun tree =>
      modify fun s' => { s' with tree }).run here s).2
  rw [FileTree.write]
  cases located : s.tree.locate here.cwd written with
  | error problem => exact spares
  | ok p =>
      have place := FileTree.eq_resolve_of_locate located
      dsimp only
      split
      · exact spares
      · rename_i free
        have inner : p ≠ [] := by
          rintro rfl
          exact free rfl
        refine ⟨spares.untouched.trans (.inl ?_), spares.avoids⟩
        exact (FileTree.get?_put _ _ _ _ inner).trans (if_neg (place ▸ other))

end Job

namespace Invocation

variable {i : Invocation} {settings : Settings}

/-- The written path of the document that a command is to write, if it is to write one. -/
def outputPath? (i : Invocation) (settings : Settings) : Option String :=
  match i.command with
  | .init _ _ _ output _ => some (Path.tidy ((output.filter (· != "")).getD (i.documentPath settings)))
  | _ => none

theorem keeps_spares_runInit {kind : ProjectKind} {language repo output : Option String} {force : Bool}
    (other : q ≠ Path.resolve here.cwd (Path.tidy ((output.filter (· != "")).getD (i.documentPath settings)))) :
    Keeps here (Session.Spares (LogFile.dayOf here.now) tree q)
      (i.runInit settings kind language repo output force) := by
  refine .bind (.bind .session fun _ => .bind .surroundings fun _ => .pure _) fun there => ?_
  split
  · exact .halt _
  · refine .bind (.ofExcept _) fun p => .bind (keeps_spares_makeDirectories _) fun _ => .bind (.ofExcept _) fun text =>
      .bind (keeps_spares_writeText text other) fun _ => .bind (.note (lasting_spares here tree q) _ _) fun _ => ?_
    exact keeps_spares_answer i _ _

theorem keeps_spares_runValidate :
    Keeps here (Session.Spares (LogFile.dayOf here.now) tree q) (i.runValidate settings) := by
  have lasting := lasting_spares here tree q
  refine .bind (Policy.keeps_load lasting _) fun p => .bind (.perform lasting _) fun a => ?_
  dsimp only
  split
  · refine .bind (keeps_spares_print _) fun _ => ?_
    split
    · exact .pure ()
    · exact .halt _
  · refine .bind (keeps_spares_printLines _) fun _ => ?_
    split
    · exact .bind (.note lasting _ _) fun _ => .bind (keeps_spares_print _) fun _ => .pure ()
    · exact .halt _

/-- A command leaves every path alone but that of the document that it is to write. -/
theorem keeps_spares_run
    (other : ∀ written, i.outputPath? settings = some written → q ≠ Path.resolve here.cwd written) :
    Keeps here (Session.Spares (LogFile.dayOf here.now) tree q) (i.run settings) := by
  have lasting := lasting_spares here tree q
  rw [run]
  rw [outputPath?] at other
  cases command : i.command with
  | init kind language repo output force =>
      rw [command] at other
      exact keeps_spares_runInit (other _ rfl)
  | validate => exact keeps_spares_runValidate
  | infer issues number =>
      refine .bind (Policy.keeps_loadValid lasting _) fun p => ?_
      split
      · exact .note lasting _ _
      · exact .bind (Snapshot.keeps_load _ _) fun _ => .bind (keeps_selectIssues _ _ _) fun _ =>
          .bind (keeps_adviseAll lasting _ _) fun _ => keeps_spares_answer i _ _
  | checkBlocked issues threshold =>
      refine .bind (Policy.keeps_loadValid lasting _) fun p => ?_
      split
      · exact .note lasting _ _
      · exact .bind (Snapshot.keeps_load _ _) fun _ => .bind .surroundings fun _ => .bind (.perform lasting _) fun _ =>
          keeps_spares_answer i _ _
  | escalate issues labels apply =>
      refine .bind (Policy.keeps_loadValid lasting _) fun p => ?_
      dsimp only
      split
      · exact .bind (Snapshot.keeps_load _ _) fun _ => .bind (.pure _) fun _ => .bind (Snapshot.keeps_load _ _)
          fun _ => .bind .surroundings fun _ => .bind (.perform lasting _) fun _ => keeps_spares_answer i _ _
      · exact .bind (.pure _) fun _ => .bind (Snapshot.keeps_load _ _) fun _ => .bind .surroundings fun _ =>
          .bind (.perform lasting _) fun _ => keeps_spares_answer i _ _
  | planLabels labels =>
      exact .bind (Policy.keeps_loadValid lasting _) fun p => .bind (Snapshot.keeps_load _ _) fun _ =>
        .bind (.perform lasting _) fun _ => keeps_spares_answer i _ _
  | planBoard columns =>
      exact .bind (Policy.keeps_loadValid lasting _) fun p => .bind (Snapshot.keeps_load _ _) fun _ =>
        .bind (.perform lasting _) fun _ => keeps_spares_answer i _ _
  | report issues repo closed =>
      refine .bind (Policy.keeps_loadValid lasting _) fun p => .bind (Snapshot.keeps_load _ _) fun _ =>
        .bind .surroundings fun _ => .bind (.perform lasting _) fun _ => ?_
      split
      · exact keeps_spares_print _
      · exact keeps_spares_print _

/-- Without force a command that finds something where its document is to be is refused. -/
theorem run_init_of_has {kind : ProjectKind} {language repo output : Option String} {written : String} {s : Session}
    (unforced : i.command = .init kind language repo output false) (place : i.outputPath? settings = some written)
    (there : s.tree.has here.cwd written = true) : (i.run settings).run here s =
      (.error (.refused s!"{written} already exists; use --force to overwrite"), s) := by
  rw [outputPath?, unforced] at place
  obtain rfl := Option.some.inj place
  rw [run, unforced]
  simp only [runInit]
  rw [run_bind_of_ok (a := true) (by rw [← there]; rfl)]
  rfl

end Invocation

namespace Program

variable {settings : Settings} {i : Invocation}

/-! ## Runs -/

/-- The log file with those that are put away. -/
def logFiles (here : Surroundings) (settings : Settings) : List Path :=
  if settings.logFile = "" then []
  else LogFile.kept here.cwd settings.logFile settings.logBackups (LogFile.dayOf here.now)

/-- The files that a run may write: those of the log, and the document of a starter policy. -/
def writtenFiles (here : Surroundings) (settings : Settings) (i : Invocation) : List Path :=
  logFiles here settings ++ ((i.outputPath? settings).map (Path.resolve here.cwd)).toList

theorem afterSetUp_tree (s : Session) (set : Log × FileTree × Option AccessFault) :
    (afterSetUp s set).2.tree = set.2.1 := by
  obtain ⟨log, tree, _ | f⟩ := set
  · rfl
  · rw [afterSetUp]
    split <;> rfl

theorem keeps_spares_setUpLog (here : Surroundings) (tree : FileTree) (other : q ∉ logFiles here settings)
    (quiet : Bool) :
    Keeps here (Session.Spares (LogFile.dayOf here.now) tree q) (setUpLog settings quiet) := by
  intro s spares
  have clear : settings.logFile ≠ "" →
      q ∉ LogFile.kept here.cwd settings.logFile settings.logBackups (LogFile.dayOf here.now) := by
    intro given
    rwa [logFiles, if_neg given] at other
  obtain ⟨untouched, avoids⟩ :=
    s.log.untouched_setUp (here.environment.get? "LOG_LEVEL") settings.logSize quiet s.tree clear
  rw [run_setUpLog]
  refine ⟨?_, ?_⟩
  · rw [afterSetUp_tree]
    exact spares.untouched.trans untouched
  · rw [(afterSetUp_snd _ _).2]
    exact avoids

/-- Telling the user why a run was halted leaves the files alone. -/
theorem spares_explain {s : Session} (spares : s.Spares (LogFile.dayOf here.now) tree q) (h : Halt) :
    (explain here s h).session.Spares (LogFile.dayOf here.now) tree q := by
  have told (lines : List String) {s : Session} (spares : s.Spares (LogFile.dayOf here.now) tree q) :
      (told lines s).Spares (LogFile.dayOf here.now) tree q := ⟨spares.untouched, spares.avoids⟩
  cases h with
  | rejected => exact spares
  | notJson problem place => exact told _ spares
  | refused message =>
      rw [explain]
      cases s.log.isDebug with
      | true => exact told _ ((lasting_spares here tree q).noted _ _ spares)
      | false => exact told _ spares
  | fault f =>
      cases f with
      | policy problems => exact told _ spares
      | access f =>
          obtain ⟨problem, written⟩ := f
          cases problem with
          | missing => exact told _ spares
          | _ => exact spares
      | _ => exact spares

theorem spares_finish {s : Session} {job : Job Unit} (spares : s.Spares (LogFile.dayOf here.now) tree q)
    (keeps : Keeps here (Session.Spares (LogFile.dayOf here.now) tree q) job) :
    (finish here s job).session.Spares (LogFile.dayOf here.now) tree q := by
  have after := keeps s spares
  rw [finish]
  generalize job.run here s = y at after
  obtain ⟨_ | a, s⟩ := y
  · exact spares_explain after _
  · exact after

theorem spares_initial (day : String) (tree : FileTree) (q : Path) : (Session.initial tree).Spares day tree q :=
  ⟨.refl tree q, by rintro _ _ ⟨⟩⟩

/-- What is at a path that is not to be written stays there. -/
theorem untouched_run (here : Surroundings) (tree : FileTree) (arguments : List String)
    (other : ∀ i settings environment, Invocation.ofArguments arguments = .ok i →
      Settings.load here.cwd tree here.environment = (.ok settings, environment) →
      q ∉ writtenFiles here settings i) : tree.Untouched (run here tree arguments).session.tree q := by
  cases accepted : Invocation.ofArguments arguments with
  | error stop =>
      rw [run, accepted]
      cases stop <;> exact .refl tree q
  | ok i =>
      cases loaded : Settings.load here.cwd tree here.environment with
      | mk answer environment =>
          cases answer with
          | error f =>
              rw [run, accepted]
              change tree.Untouched (execute here tree i).session.tree q
              rw [execute, loaded]
              dsimp only
              split <;> exact .refl tree q
          | ok settings =>
              have free := other i settings environment accepted loaded
              obtain ⟨apart, noOutput⟩ := not_or.1 (List.mem_append.not.1 free)
              rw [run_eq_finish accepted loaded]
              refine (spares_finish (spares_initial _ tree q) (.bind (keeps_spares_setUpLog _ tree ?_ _) fun _ =>
                Invocation.keeps_spares_run ?_)).untouched
              · exact apart
              · intro written output same
                rw [output] at noOutput
                exact noOutput (List.mem_singleton.2 same)

/-- Without force nothing is done behind the log if something is where the document is to be. -/
theorem run_setUpLog_of_has (here : Surroundings) {kind : ProjectKind} {language repo output : Option String}
    {written : String}
    (unforced : i.command = .init kind language repo output false) (place : i.outputPath? settings = some written)
    (there : tree.has here.cwd written = true) :
    ∃ h, (do setUpLog settings i.json; i.run settings : Job Unit).run here (.initial tree) =
        (.error h, ((setUpLog settings i.json).run here (.initial tree)).2) ∧
      (((setUpLog settings i.json).run here (.initial tree)).1 = .ok () → ∃ message, h = .refused message) := by
  have still : ((setUpLog settings i.json).run here (.initial tree)).2.tree.has here.cwd written = true := by
    rw [run_setUpLog, afterSetUp_tree]
    exact (Log.extends_setUp _ _ _ _ _ _).has there
  revert still
  generalize set : (setUpLog settings i.json).run here (.initial tree) = x
  obtain ⟨_ | ⟨⟩, s⟩ := x
  · intro _
    exact ⟨_, run_bind_of_error set, by rintro ⟨⟩⟩
  · intro still
    exact ⟨_, (run_bind_of_ok set).trans (Invocation.run_init_of_has unforced place still), fun _ => ⟨_, rfl⟩⟩

/-- A run writes the files of the log and, to make a starter policy, its document. Without force it leaves a document
alone that its path leads to, and ends with exit code one once the log is set up. -/
theorem run_writes (here : Surroundings) (tree : FileTree) (arguments : List String) :
    (∀ q, (∀ i settings environment, Invocation.ofArguments arguments = .ok i →
        Settings.load here.cwd tree here.environment = (.ok settings, environment) →
        q ∉ writtenFiles here settings i) → tree.Untouched (run here tree arguments).session.tree q) ∧
      ∀ i settings environment kind language repo output written, Invocation.ofArguments arguments = .ok i →
        Settings.load here.cwd tree here.environment = (.ok settings, environment) →
        i.command = .init kind language repo output false → i.outputPath? settings = some written →
        tree.has here.cwd written = true →
        (∀ q, q ∉ logFiles here settings → tree.Untouched (run here tree arguments).session.tree q) ∧
          (((setUpLog settings i.json).run { here with environment } (.initial tree)).1 = .ok () →
            (run here tree arguments).ending = .exit 1) := by
  refine ⟨fun q => untouched_run here tree arguments, ?_⟩
  intro i settings environment kind language repo output written accepted loaded unforced place there
  obtain ⟨h, halted, refused⟩ := run_setUpLog_of_has { here with environment } unforced place there
  rw [run_eq_finish accepted loaded, finish, halted]
  refine ⟨fun q other => ?_, fun set => ?_⟩
  · have keeps := keeps_spares_setUpLog { here with environment } tree other i.json
    exact (spares_explain (keeps _ (spares_initial _ tree q)) h).untouched
  · obtain ⟨message, rfl⟩ := refused set
    obtain ⟨behind, told, -⟩ := Halt.tells_refused message { here with environment }
      ((setUpLog settings i.json).run { here with environment } (.initial tree)).2
    exact congrArg Outcome.ending told

/-- A working directory with a document of one octet, which is no text, and a note. -/
def furnished : FileTree := (FileTree.empty.put ["wf.yaml"] (.file [0xFF])).put ["notes.txt"] (.file [])

/-- Where there is a document a starter policy is refused, and all files stay. -/
theorem furnished_stays : Invocation.ofArguments beginning = .ok first ∧
    furnished.Untouched (run atRoot furnished beginning).session.tree ["notes.txt"] ∧
    furnished.Untouched (run atRoot furnished beginning).session.tree ["wf.yaml"] ∧
    (run atRoot furnished beginning).ending = .exit 1 := by
  have accepted : Invocation.ofArguments beginning = .ok first := by rfl
  have loaded : Settings.load [] furnished atRoot.environment = (.ok Settings.standard, atRoot.environment) := by rfl
  have writes := run_writes atRoot furnished beginning
  refine ⟨accepted, writes.1 _ ?_, ?_, ?_⟩
  · intro i settings environment accepted' loaded'
    obtain rfl := Except.ok.inj (accepted.symm.trans accepted')
    obtain ⟨same, -⟩ := Prod.mk.inj (loaded.symm.trans loaded')
    obtain rfl := Except.ok.inj same
    decide +kernel
  · exact (writes.2 _ _ _ _ _ _ _ _ accepted loaded rfl rfl (by decide +kernel)).1 _ (by decide +kernel)
  · exact (writes.2 _ _ _ _ _ _ _ _ accepted loaded rfl rfl (by decide +kernel)).2 rfl

/-- The arguments of a starter policy whose path goes through a directory that is not there. -/
def roundabout : List String := ["init", "--type", "library", "--output", "x/../wf.yaml", "--json"]

/-- A document that can be reached only once a directory is made is written over without force. -/
theorem roundabout_overwrites :
    Invocation.ofArguments roundabout = .ok ⟨.init .library none none (some "x/../wf.yaml") false, none, true⟩ ∧
    Path.resolve [] "x/../wf.yaml" = ["wf.yaml"] ∧ (furnished.file? ["wf.yaml"]).isSome = true ∧
    Settings.load [] furnished atRoot.environment = (.ok Settings.standard, atRoot.environment) ∧
    logFiles atRoot Settings.standard = [] ∧
    (run atRoot furnished roundabout).ending = .exit 0 ∧
    (run atRoot furnished roundabout).session.tree.file? ["wf.yaml"] ≠ furnished.file? ["wf.yaml"] := by
  refine ⟨rfl, by decide +kernel, rfl, rfl, rfl, by decide +kernel, ?_⟩
  have written : (run atRoot furnished roundabout).session.tree.file? ["wf.yaml"] =
      some (Text.Utf8.encode (Yaml.layout (Policy.starter ⟨.library, none, none, none⟩).toData)) := by
    rfl
  intro same
  have octets := congrArg (Option.map Text.Utf8.decode) (written.symm.trans same)
  rw [Option.map_some, Text.Utf8.decode_encode] at octets
  cases octets

end Program

end Triage
