import Triage.Proofs.Command.Answer
import Triage.Proofs.Inference.Best
import Triage.Proofs.Sla.Overflow
import Triage.Proofs.Tracker.Issue

/-!
# Which issues an inference answers for

An inference answers for the open issues of a snapshot, one after the other. Asked for a number, it only looks whether
the first issue with the number is open, and answers for all that have it.
-/

namespace Triage

open Job
open Snapshot (atRoot)

/-! ## Selecting issues -/

namespace Issue

variable {number : Option ℤ} {issues selection before : List Issue}

/-- The issues that an inference is asked about: the open ones, and of these only the ones with a given number. -/
def asked (number : Option ℤ) (issues : List Issue) : List Issue :=
  issues.filter fun issue => issue.IsOpen ∧ ∀ n ∈ number, issue.number = n

/-- The issues that it looks at: the open ones, or all with a given number. -/
def selected (number : Option ℤ) (issues : List Issue) : List Issue :=
  match number with
  | none => issues.filter (·.IsOpen)
  | some n => issues.filter (·.number == n)

/-- There is an issue with the given number, and the first one is open. -/
def IsLed (number : Option ℤ) (issues : List Issue) : Prop :=
  ∀ n ∈ number, ∃ first, issues.find? (·.number == n) = some first ∧ first.IsOpen

theorem asked_eq_filter (number : Option ℤ) (issues : List Issue) :
    asked number issues = (selected number issues).filter (·.IsOpen) := by
  cases number with
  | none => simp [asked, selected, List.filter_filter]
  | some n => simp [asked, selected, List.filter_filter, beq_eq_decide]

/-- Nothing else is looked at where every issue with the number is open. -/
theorem asked_eq_selected_iff : asked number issues = selected number issues ↔
    ∀ n ∈ number, ∀ issue ∈ issues, issue.number = n → issue.IsOpen := by
  rw [asked_eq_filter, List.filter_eq_self]
  cases number with
  | none => simp [selected]
  | some n => simp [selected]

theorem texts_of_filterAuxM (answered : issues.filterAuxM isOpen before = .ok selection) :
    ∀ issue ∈ issues, ∃ text, issue.state = .text text := by
  induction issues generalizing before with
  | nil => simp
  | cons issue rest ih =>
      obtain ⟨b, stands, answered⟩ := bind_eq_ok_iff.1 answered
      exact List.forall_mem_cons.2 ⟨exists_isOpen_iff.1 ⟨b, stands⟩, ih answered⟩

/-- The open issues are found where all issues have states. -/
theorem openOnes_eq_ok_iff : openOnes issues = .ok selection ↔
    (∀ issue ∈ issues, ∃ text, issue.state = .text text) ∧ issues.filter (·.IsOpen) = selection := by
  constructor
  · intro answered
    obtain ⟨kept, filtered, -⟩ := bind_eq_ok_iff.1 answered
    have texts := texts_of_filterAuxM filtered
    exact ⟨texts, Except.ok.inj ((Issue.openOnes_eq texts).symm.trans answered)⟩
  · rintro ⟨texts, rfl⟩
    exact Issue.openOnes_eq texts

end Issue

/-- What an inference says of an issue. -/
structure Advises (p : Policy) (issue : Issue) (a : Advice) : Prop where
  number : a.number = issue.number
  title : a.title = issue.title
  recommended : (Inference.recommend p issue).result = .ok a.recommended
  missing : a.missing = Inference.missing p issue

/-- The log may have added lines to the output unless it is quiet, and nothing else has. -/
structure Session.Logged (s s' : Session) : Prop where
  lines : Log.Lines s.out → Log.Lines s'.out
  quiet : s.log.IsQuiet → s'.out = s.out

namespace Invocation

variable {here : Surroundings} {s s' : Session} {i : Invocation} {settings : Settings} {path : String}
  {number : Option ℤ} {issues selection : List Issue} {p : Policy} {advice : List Advice} {h : Halt} {n : ℤ}

/-- What comes of the issues with a number is settled by the first one. -/
theorem run_selectIssues : (selectIssues path (some n) issues).run here s =
    (match issues.find? (·.number == n) with
      | none => .error (.refused s!"Issue #{n} not found in {path}")
      | some first => match first.isOpen with
        | .ok true => .ok (Issue.selected (some n) issues)
        | .ok false => .error (.refused s!"Issue #{n} is closed")
        | .error fault => .error (.fault fault), s) := by
  rw [selectIssues, ← List.head?_filter, Issue.selected]
  cases issues.filter (·.number == n) with
  | nil => rfl
  | cons first rest =>
      change ((ofExcept first.isOpen >>= fun isOpen =>
        if isOpen = true then pure (first :: rest) else refuse s!"Issue #{n} is closed").run here s) = _
      dsimp only [List.head?_cons]
      rcases first.isOpen with fault | (_ | _) <;> rfl

/-- Issues are selected where the first one with the number is open or, without a number, all have states. -/
theorem run_selectIssues_eq_ok_iff : (selectIssues path number issues).run here s = (.ok selection, s') ↔
    (number = none → ∀ issue ∈ issues, ∃ text, issue.state = .text text) ∧ Issue.IsLed number issues ∧
      Issue.selected number issues = selection ∧ s = s' := by
  cases number with
  | none =>
      have answered : (ofExcept (Issue.openOnes issues)).run here s = (.ok selection, s') ↔
          Issue.openOnes issues = .ok selection ∧ s = s' := by
        rw [run_ofExcept, Prod.mk.injEq]
        cases Issue.openOnes issues <;> simp [Except.mapError]
      rw [selectIssues, answered, Issue.openOnes_eq_ok_iff]
      simp [Issue.IsLed, Issue.selected, and_assoc]
  | some n =>
      rw [run_selectIssues, Prod.mk.injEq]
      simp only [reduceCtorEq, false_implies, true_and, Issue.IsLed, Option.mem_some_iff, forall_eq', Issue.IsOpen]
      cases issues.find? (·.number == n) with
      | none => simp
      | some first => rcases stands : first.isOpen with fault | (_ | _) <;> simp [stands]

/-- An inference is refused for a closed issue where the first one with the number is closed. -/
theorem run_selectIssues_closed_iff : (selectIssues path (some n) issues).run here s =
    (.error (.refused s!"Issue #{n} is closed"), s') ↔
      (∃ first, issues.find? (·.number == n) = some first ∧ first.isOpen = .ok false) ∧ s = s' := by
  have other : s!"Issue #{n} not found in {path}" ≠ s!"Issue #{n} is closed" := by
    intro same
    simpa [toString] using congrArg String.toList same
  rw [run_selectIssues, Prod.mk.injEq]
  cases issues.find? (·.number == n) with
  | none => simpa using fun same _ => other same
  | some first => rcases stands : first.isOpen with fault | (_ | _) <;> simp [stands]

theorem advises_of_adviseAll (answered : (adviseAll p issues).run here s = (.ok advice, s')) :
    List.Forall₂ (Advises p) issues advice := by
  induction issues generalizing s advice with
  | nil =>
      cases answered
      exact .nil
  | cons issue rest ih =>
      obtain ⟨recommended, middle, first, answered⟩ := ok_of_bind answered
      obtain ⟨others, middle', later, answered⟩ := ok_of_bind answered
      cases answered
      exact .cons ⟨rfl, rfl, result_of_run_perform first, rfl⟩ (ih later)

/-- Without an answer for an issue there is a fault. -/
theorem fault_of_adviseAll (halted : (adviseAll p issues).run here s = (.error h, s')) : ∃ fault, h = .fault fault := by
  induction issues generalizing s with
  | nil => cases halted
  | cons issue rest ih =>
      rcases error_of_bind halted with first | ⟨recommended, middle, -, halted⟩
      · exact fault_of_run_perform first
      · rcases error_of_bind halted with later | ⟨others, middle', -, ⟨⟩⟩
        exact ih later

/-- There is an answer for issues of which all is text that should be. -/
theorem exists_run_adviseAll (p : Policy) (typed : ∀ issue ∈ issues, issue.WellTyped) (s : Session) :
    ∃ advice s', (adviseAll p issues).run here s = (.ok advice, s') := by
  induction issues generalizing s with
  | nil => exact ⟨[], s, rfl⟩
  | cons issue rest ih =>
      obtain ⟨⟨⟨title, titled⟩, ⟨body, written⟩, -⟩, typed⟩ := List.forall_mem_cons.1 typed
      have inferred : (Inference.infer p issue).result = _ :=
        Inference.result_inferWith titled written Pattern.found p
      obtain ⟨found, recommended⟩ : ∃ found, (Inference.recommend p issue).result = .ok found :=
        ⟨_, Run.result_bind_eq_ok.2 ⟨_, inferred, rfl⟩⟩
      obtain ⟨others, s', answered⟩ :=
        ih typed ((Inference.recommend p issue).notes.foldl (fun s n => noted here n s) s)
      refine ⟨⟨issue.number, issue.title, found, Inference.missing p issue⟩ :: others, s', ?_⟩
      rw [adviseAll, run_bind_of_ok (run_perform_of_ok recommended), run_bind_of_ok answered]
      rfl

/-! ## The answer -/

/-- What an inference prints. -/
def adviceText (i : Invocation) (advice : List Advice) : String :=
  if i.json then Json.write (.list (advice.map Advice.toData)) ++ "\n"
  else String.join ((orNone "No open issues." (advice.flatMap Advice.lines)).map (· ++ "\n"))

theorem run_answer (i : Invocation) (advice : List Advice) (s : Session) :
    (i.answer (.list (advice.map Advice.toData)) (orNone "No open issues." (advice.flatMap Advice.lines))).run here s =
      (.ok (), { s with out := s.out ++ i.adviceText advice }) := by
  rw [answer, adviceText]
  split
  · rfl
  · exact run_printLines _ s

section

variable {s₁ s₂ : Session} (loaded : (Policy.loadValid (i.documentPath settings)).run here s = (.ok p, s₁))
  (enabled : p.automation.inference.enabled = true)
  (found : (Snapshot.load Snapshot.issues path).run here s₁ = (.ok issues, s₂))

include loaded enabled found

theorem run_runInfer (number : Option ℤ) : (i.runInfer settings path number).run here s =
    (selectIssues path number issues >>= fun selection => adviseAll p selection >>= fun advice =>
      i.answer (.list (advice.map Advice.toData))
        (orNone "No open issues." (advice.flatMap Advice.lines))).run here s₂ := by
  rw [runInfer, run_bind_of_ok loaded, enabled]
  exact run_bind_of_ok found

/-- An inference that comes to its end prints advice on the selected issues. -/
theorem runInfer_eq_ok (ended : (i.runInfer settings path number).run here s = (.ok (), s')) :
    Issue.IsLed number issues ∧
      ∃ advice middle, List.Forall₂ (Advises p) (Issue.selected number issues) advice ∧ s.Logged middle ∧
        s' = { middle with out := middle.out ++ i.adviceText advice } := by
  rw [run_runInfer loaded enabled found] at ended
  obtain ⟨selection, s₃, chosen, ended⟩ := ok_of_bind ended
  obtain ⟨-, led, rfl, rfl⟩ := run_selectIssues_eq_ok_iff.1 chosen
  obtain ⟨advice, middle, advised, ended⟩ := ok_of_bind ended
  rw [run_answer] at ended
  cases ended
  have lasts {P : Session → Prop} (lasting : Lasting here P) (start : P s) : P middle := by
    have policy := (Policy.keeps_loadValid lasting _).ends s start p s₁ loaded
    have snapshot := (Snapshot.keeps_load _ _).ends s₁ policy issues s₂ found
    exact (keeps_adviseAll lasting p _).ends s₂ snapshot advice middle advised
  exact ⟨led, advice, middle, advises_of_adviseAll advised,
    ⟨lasts (lasting_lines here), fun quiet => (lasts (lasting_quiet here s.out) ⟨quiet, rfl⟩).2⟩, rfl⟩

theorem runInfer_closed_iff : (∃ s', (i.runInfer settings path (some n)).run here s =
    (.error (.refused s!"Issue #{n} is closed"), s')) ↔
      ∃ first, issues.find? (·.number == n) = some first ∧ first.isOpen = .ok false := by
  rw [run_runInfer loaded enabled found]
  constructor
  · rintro ⟨s', refused⟩
    rcases error_of_bind refused with selected | ⟨selection, middle, -, refused⟩
    · exact (run_selectIssues_closed_iff.1 selected).1
    · rcases error_of_bind refused with halted | ⟨advice, middle', -, refused⟩
      · obtain ⟨fault, ⟨⟩⟩ := fault_of_adviseAll halted
      · rw [run_answer] at refused
        cases refused
  · intro closed
    exact ⟨s₂, run_bind_of_error (run_selectIssues_closed_iff.2 ⟨closed, rfl⟩)⟩

theorem exists_runInfer (typed : ∀ issue ∈ issues, issue.WellTyped) (led : Issue.IsLed number issues) :
    ∃ s', (i.runInfer settings path number).run here s = (.ok (), s') := by
  have among : ∀ issue ∈ Issue.selected number issues, issue ∈ issues := by
    intro issue member
    cases number <;> exact (List.mem_filter.1 member).1
  obtain ⟨advice, middle, advised⟩ := exists_run_adviseAll p (fun issue member => typed issue (among issue member)) s₂
  rw [run_runInfer loaded enabled found, run_bind_of_ok (run_selectIssues_eq_ok_iff.2
    ⟨fun _ issue member => (typed issue member).state, led, rfl, rfl⟩), run_bind_of_ok advised, run_answer]
  exact ⟨_, rfl⟩

/-- An inference that comes to its end prints an entry for each selected issue, in order and behind what the log shows.
These are the issues that it is asked about exactly where every issue with the number is open. It is refused for a
closed issue where the first one with the number is closed, whatever the others are. Where all is text that should be,
it comes to its end if the first one with the number is open. -/
theorem runInfer_answers (number : Option ℤ) :
    (∀ s', (i.runInfer settings path number).run here s = (.ok (), s') →
      ∃ advice middle, List.Forall₂ (Advises p) (Issue.selected number issues) advice ∧ s.Logged middle ∧
        s' = { middle with out := middle.out ++ i.adviceText advice } ∧
        (List.Forall₂ (Advises p) (Issue.asked number issues) advice ↔
          ∀ n ∈ number, ∀ issue ∈ issues, issue.number = n → issue.IsOpen)) ∧
    (∀ n ∈ number, (∃ s', (i.runInfer settings path number).run here s =
        (.error (.refused s!"Issue #{n} is closed"), s')) ↔
      ∃ first, issues.find? (·.number == n) = some first ∧ first.isOpen = .ok false) ∧
    ((∀ issue ∈ issues, issue.WellTyped) →
      ((∃ s', (i.runInfer settings path number).run here s = (.ok (), s')) ↔ Issue.IsLed number issues)) := by
  refine ⟨fun s' ended => ?_, fun n given => ?_, fun typed => ⟨?_, exists_runInfer loaded enabled found typed⟩⟩
  · obtain ⟨-, advice, middle, advised, logged, printed⟩ := runInfer_eq_ok loaded enabled found ended
    refine ⟨advice, middle, advised, logged, printed, ?_⟩
    rw [← Issue.asked_eq_selected_iff]
    constructor
    · intro advisedAsked
      -- The advice is as long as both lists, so nothing is filtered out.
      rw [Issue.asked_eq_filter] at advisedAsked ⊢
      exact List.filter_sublist.eq_of_length (advisedAsked.length_eq.trans advised.length_eq.symm)
    · intro same
      rwa [same]
  · obtain rfl := Option.mem_def.1 given
    exact runInfer_closed_iff loaded enabled found
  · rintro ⟨s', ended⟩
    exact (runInfer_eq_ok loaded enabled found ended).1

end

end Invocation

/-! ## Two issues of one number -/

theorem Data.text?_eq_some_iff {d : Data} {text : String} : d.text? = some text ↔ d = .text text := by
  cases d <;> simp [text?]

/-- A log that goes nowhere leaves the files alone. -/
theorem lasting_files (here : Surroundings) (tree : FileTree) :
    Lasting here fun s => s.log.sinks = none ∧ s.tree = tree where
  noted n s := by
    rintro ⟨unset, rfl⟩
    refine ⟨unset, ?_⟩
    change (s.log.emit _ s.tree).tree = s.tree
    rw [Log.emit, unset]
    split <;> rfl
  setContext _ _ kept := kept

/-- A document with a policy that passes is loaded. -/
theorem Policy.exists_run_loadValid {here : Surroundings} {s : Session} {path text : String} {place : Path}
    {bytes : List UInt8} {p : Policy} {a : Audit} (unset : s.log.sinks = none)
    (stored : s.tree.find here.cwd (Path.tidy path) = .ok (place, .file bytes)) (read : Text.ofStored bytes = .ok text)
    (found : (ofText text).result = .ok p) (audited : p.check.result = .ok a) (valid : a.valid = true) :
    ∃ s', (loadValid path).run here s = (.ok p, s') ∧ s'.log.sinks = none ∧ s'.tree = s.tree := by
  have lasting := lasting_files here s.tree
  have kept := lasting.noted ⟨.debug, .command, s!"Loading workflow config from {path}"⟩ s ⟨unset, rfl⟩
  have taken := run_readText (s := Job.noted here ⟨.debug, .command, s!"Loading workflow config from {path}"⟩ s)
    (by rw [kept.2]; exact stored) read
  obtain ⟨s', vetted⟩ : ∃ s', (vet path text).run here _ = _ := run_vet found audited _
  rw [if_pos valid] at vetted
  refine ⟨s', ?_, (keeps_vet lasting path text).ends _ kept p s' vetted⟩
  rw [loadValid_eq, run_bind_of_ok (x := note .debug s!"Loading workflow config from {path}") rfl,
    run_bind_of_ok taken, vetted]

namespace Program

section

variable {document snapshot : String} {p : Policy} {a : Audit} {issues : List Issue}

/-- A policy document in a file, and a snapshot beside it. -/
def beside (document snapshot : String) : FileTree :=
  (FileTree.empty.put ["wf.yaml"] (.file (Text.Utf8.encode document))).put ["i.json"]
    (.file (Text.Utf8.encode snapshot))

theorem find_document : (beside document snapshot).find [] "wf.yaml" =
    .ok (["wf.yaml"], .file (Text.Utf8.encode document)) := by
  refine FileTree.find_eq_ok_iff.2 ⟨by rfl, ?_⟩
  rw [beside, FileTree.get?_put _ _ _ _ (List.cons_ne_nil _ _), if_neg (by decide),
    FileTree.get?_put _ _ _ _ (List.cons_ne_nil _ _), if_pos rfl]

theorem find_snapshot : (beside document snapshot).find [] "i.json" =
    .ok (["i.json"], .file (Text.Utf8.encode snapshot)) := by
  refine FileTree.find_eq_ok_iff.2 ⟨by rfl, ?_⟩
  rw [beside, FileTree.get?_put _ _ _ _ (List.cons_ne_nil _ _), if_pos rfl]

/-- A policy that passes and the issues beside it are loaded one after the other. -/
theorem exists_loads (plain : '\r' ∉ document.toList ∧ '\r' ∉ snapshot.toList)
    (parsed : (Policy.ofText document).result = .ok p) (audited : p.check.result = .ok a) (valid : a.valid = true)
    (read : Snapshot.decode snapshot >>= Snapshot.ofData Snapshot.issues "i.json" = .ok issues) : ∃ s,
    (Policy.loadValid "wf.yaml").run atRoot (.initial (beside document snapshot)) = (.ok p, s) ∧
    (Snapshot.load Snapshot.issues "i.json").run atRoot s = (.ok issues, s) := by
  have stored : (beside document snapshot).find atRoot.cwd (Path.tidy "wf.yaml") = _ := find_document
  obtain ⟨s, loaded, -, same⟩ := Policy.exists_run_loadValid (s := .initial (beside document snapshot)) rfl stored
    (Text.ofStored_encode plain.1) parsed audited valid
  have taken : (readText "i.json").run atRoot s = (.ok snapshot, s) :=
    run_readText (by rw [same]; exact find_snapshot) (Text.ofStored_encode plain.2)
  refine ⟨s, loaded, ?_⟩
  obtain ⟨data, decoded, read⟩ := bind_eq_ok_iff.1 read
  exact (Snapshot.run_load taken decoded).trans (congrArg (·, s) read)

end

/-- A policy of few words with inference switched on. -/
def advisingSections : List (String × Data) :=
  pausingSections.take 2 ++ [("automation", .record [("label_inference", .record [("enabled", .bool true)])])]

def advisingText : String :=
  "project:\n  type: library\nlabels:\n  status:\n    open:\n      color: ededed\n" ++
  "  priority:\n    P0:\n      color: ededed\n  type:\n    bug:\n      color: ededed\n" ++
  "automation:\n  label_inference:\n    enabled: true\n"

theorem read_advisingText : Yaml.read advisingText = .ok (.record advisingSections) := by
  have automation : Yaml.Outline 2 (.record [("label_inference", .record [("enabled", .bool true)])]) :=
    .record (by simp) (by simpa using .record (by simp) (by simp))
  have outline : ∀ field ∈ advisingSections, Yaml.Outline 3 field.2 := by
    intro field member
    rcases List.mem_append.1 member with earlier | last
    · exact outline_pausingSections field (List.mem_of_mem_take earlier)
    · rw [List.mem_singleton.1 last]
      exact automation.mono (by decide)
  have written : Yaml.layout (.record advisingSections) = advisingText := by decide +kernel
  rw [← written]
  exact Yaml.read_layout_eq_self (by decide) outline (by decide) (by decide +kernel) (by decide +kernel)
    (by decide +kernel)

/-- A snapshot of an issue that was closed, and of another one with its number that is open. -/
def twins : String :=
  "[\x7b\"number\": 6, \"created_at\": \"2026-03-01\", \"state\": \"closed\"\x7d, " ++
  "\x7b\"number\": 6, \"created_at\": \"2026-03-02\"\x7d]"

def advising : FileTree := beside advisingText twins

/-- An issue with the number, without a title and a body, in a state. -/
structure IsTwin (state : String) (issue : Issue) : Prop where
  number : issue.number = 6
  title : issue.title = .text ""
  body : issue.body = .text ""
  state : issue.state = .text state

theorem advising_loads : ∃ p shut opened s,
    (Policy.loadValid (inferenceJson.documentPath Settings.standard)).run atRoot (.initial advising) = (.ok p, s) ∧
    p.automation.inference.enabled = true ∧
    (Snapshot.load Snapshot.issues "i.json").run atRoot s = (.ok [shut, opened], s) ∧
    IsTwin "closed" shut ∧ IsTwin "open" opened := by
  have outcome : ((Policy.ofData (.record advisingSections)).result.toOption.bind fun p =>
      p.check.result.toOption.map fun a => (p.automation.inference.enabled, a.valid)) = some (true, true) := by
    decide +kernel
  have listed : (Snapshot.decode twins >>= Snapshot.ofData Snapshot.issues "i.json").toOption.map
      (List.map fun i => (i.number, i.title.text?, i.body.text?, i.state.text?)) =
        some [(6, some "", some "", some "closed"), (6, some "", some "", some "open")] := by
    decide +kernel
  obtain ⟨p, found, outcome⟩ := Option.bind_eq_some_iff.1 outcome
  obtain ⟨a, audited, flags⟩ := Option.map_eq_some_iff.1 outcome
  obtain ⟨enabled, valid⟩ := Prod.mk.inj flags
  have parsed : (Policy.ofText advisingText).result = .ok p := by
    rw [Policy.ofText, read_advisingText]
    exact eq_ok_of_toOption found
  obtain ⟨issues, read, listed⟩ := Option.map_eq_some_iff.1 listed
  obtain ⟨shut, others, rfl, first, listed⟩ := List.map_eq_cons_iff.1 listed
  obtain ⟨opened, rest, rfl, second, listed⟩ := List.map_eq_cons_iff.1 listed
  obtain rfl := List.map_eq_nil_iff.1 listed
  obtain ⟨s, loaded, taken⟩ := exists_loads ⟨by decide +kernel, by decide +kernel⟩ parsed (eq_ok_of_toOption audited)
    valid (eq_ok_of_toOption read)
  have place : inferenceJson.documentPath Settings.standard = "wf.yaml" := by rfl
  simp only [Prod.mk.injEq, Data.text?_eq_some_iff] at first second
  rw [place, advising]
  exact ⟨p, shut, opened, s, loaded, enabled, taken, ⟨first.1, first.2.1, first.2.2.1, first.2.2.2⟩,
    ⟨second.1, second.2.1, second.2.2.1, second.2.2.2⟩⟩

theorem IsTwin.isOpen_eq {state : String} {issue : Issue} (twin : IsTwin state issue) :
    issue.isOpen = .ok (Text.lower state == "open") := by
  rw [Issue.isOpen, twin.state]

/-- Without a number, the open one of the two is answered for. -/
theorem advising_answers : ∃ p shut opened s,
    (Policy.loadValid (inferenceJson.documentPath Settings.standard)).run atRoot (.initial advising) = (.ok p, s) ∧
    p.automation.inference.enabled = true ∧
    (Snapshot.load Snapshot.issues "i.json").run atRoot s = (.ok [shut, opened], s) ∧ opened.IsOpen ∧
    ∃ s' advice, (inferenceJson.runInfer Settings.standard "i.json" none).run atRoot (.initial advising) =
      (.ok (), s') ∧ List.Forall₂ (Advises p) [opened] advice ∧ s'.out = inferenceJson.adviceText advice := by
  obtain ⟨p, shut, opened, s, loaded, enabled, found, isShut, isOpened⟩ := advising_loads
  have stands : opened.IsOpen := isOpened.isOpen_eq.trans (by decide +kernel)
  have apart : ¬ shut.IsOpen := by
    rw [Issue.IsOpen, isShut.isOpen_eq]
    decide +kernel
  have typed : ∀ issue ∈ [shut, opened], issue.WellTyped := by
    simp only [List.forall_mem_cons]
    exact ⟨⟨⟨_, isShut.title⟩, ⟨_, isShut.body⟩, ⟨_, isShut.state⟩⟩,
      ⟨⟨_, isOpened.title⟩, ⟨_, isOpened.body⟩, ⟨_, isOpened.state⟩⟩, by simp⟩
  obtain ⟨answers, -, ends⟩ := Invocation.runInfer_answers loaded enabled found none
  obtain ⟨s', ended⟩ := (ends typed).2 (by simp [Issue.IsLed])
  obtain ⟨advice, middle, advised, logged, printed, -⟩ := answers s' ended
  have selected : Issue.selected none [shut, opened] = [opened] := by simp [Issue.selected, stands, apart]
  refine ⟨p, shut, opened, s, loaded, enabled, found, stands, s', advice, ended, selected ▸ advised, ?_⟩
  rw [printed, logged.quiet (initial_quiet advising)]
  exact String.empty_append

/-- Asked for the number, the inference is refused for a closed issue, although there is an open one. -/
theorem open_twin_is_refused : ∃ p issues s,
    (Policy.loadValid (inferenceJson.documentPath Settings.standard)).run atRoot (.initial advising) = (.ok p, s) ∧
    p.automation.inference.enabled = true ∧
    (Snapshot.load Snapshot.issues "i.json").run atRoot s = (.ok issues, s) ∧
    (∃ issue ∈ issues, issue.number = 6 ∧ issue.IsOpen) ∧
    ∃ s', (inferenceJson.runInfer Settings.standard "i.json" (some 6)).run atRoot (.initial advising) =
      (.error (.refused "Issue #6 is closed"), s') := by
  obtain ⟨p, shut, opened, s, loaded, enabled, found, isShut, isOpened⟩ := advising_loads
  have stands : opened.IsOpen := isOpened.isOpen_eq.trans (by decide +kernel)
  refine ⟨p, _, s, loaded, enabled, found, ⟨opened, by simp, isOpened.number, stands⟩, ?_⟩
  refine (Invocation.runInfer_closed_iff (n := 6) loaded enabled found).2 ⟨shut, ?_, isShut.isOpen_eq.trans ?_⟩
  · simp [isShut.number]
  · decide +kernel

end Program

end Triage
