import Triage.Command.Execution
import Triage.Proofs.Log

/-!
# Laws of jobs

What single steps of a job do to the session, and what carries over from the steps to the whole: what a job
keeps, and which files it does not look at.
-/

namespace Triage

/-- Two sessions that differ in some files only, none of which the log writes on a day. -/
structure Session.Alike (day : String) (files : List Path) (s s' : Session) : Prop where
  log : s.log = s'.log
  out : s.out = s'.out
  err : s.err = s'.err
  tree : s.tree.AlikeExcept files s'.tree
  avoids : s.log.Avoids day files

namespace Job

variable {α β : Type} {here : Surroundings} {s s' : Session}

/-! ## Single steps -/

/-- A job that does not come to its end keeps what comes behind it from being done. -/
theorem run_bind_of_error {x : Job α} {f : α → Job β} {h : Halt} (halted : x.run here s = (.error h, s')) :
    (x >>= f).run here s = (.error h, s') := by
  rw [run_bind, halted]

theorem run_bind_of_ok {x : Job α} {f : α → Job β} {a : α} (answered : x.run here s = (.ok a, s')) :
    (x >>= f).run here s = (f a).run here s' := by
  rw [run_bind, answered]

/-- A job that comes to its end did each of its parts. -/
theorem ok_of_bind {x : Job α} {f : α → Job β} {b : β} (ended : (x >>= f).run here s = (.ok b, s')) :
    ∃ a middle, x.run here s = (.ok a, middle) ∧ (f a).run here middle = (.ok b, s') := by
  rw [run_bind] at ended
  generalize x.run here s = y at ended
  obtain ⟨_ | a, middle⟩ := y
  · cases ended
  · exact ⟨a, middle, rfl, ended⟩

/-- A job that halts did so in its first part or in what came behind it. -/
theorem error_of_bind {x : Job α} {f : α → Job β} {h : Halt} (halted : (x >>= f).run here s = (.error h, s')) :
    x.run here s = (.error h, s') ∨
      ∃ a middle, x.run here s = (.ok a, middle) ∧ (f a).run here middle = (.error h, s') := by
  rw [run_bind] at halted
  generalize x.run here s = y at halted
  obtain ⟨_ | a, middle⟩ := y
  · cases halted
    exact .inl rfl
  · exact .inr ⟨a, middle, rfl, halted⟩

theorem ext {x y : Job α} (same : ∀ here s, x.run here s = y.run here s) : x = y :=
  congrArg Job.mk (funext fun here => funext fun s => same here s)

theorem id_map_eq (x : Job α) : id <$> x = x := by
  refine ext fun here s => ?_
  change (x >>= fun a => Pure.pure (id a)).run here s = x.run here s
  rw [run_bind]
  rcases x.run here s with ⟨_ | a, s⟩ <;> rfl

theorem bind_bind {γ : Type} (x : Job α) (f : α → Job β) (g : β → Job γ) :
    x >>= f >>= g = x >>= fun a => f a >>= g := by
  refine ext fun here s => ?_
  rw [run_bind, run_bind, run_bind]
  rcases x.run here s with ⟨_ | a, s⟩ <;> rfl

instance : LawfulMonad Job := LawfulMonad.mk' Job id_map_eq (fun _ _ => rfl) bind_bind

theorem run_modify (f : Session → Session) : (modify f).run here s = (.ok (), f s) := rfl

theorem run_perform (r : Run α) : (perform r).run here s =
    (r.result.mapError Halt.fault, r.notes.foldl (fun s n => noted here n s) s) := rfl

/-- An operation with an answer gives it, behind its notes. -/
theorem run_perform_of_ok {r : Run α} {a : α} (answered : r.result = .ok a) : (perform r).run here s =
    (.ok a, r.notes.foldl (fun s n => noted here n s) s) := by
  rw [run_perform, answered]
  rfl

theorem result_of_run_perform {r : Run α} {a : α} (answered : (perform r).run here s = (.ok a, s')) :
    r.result = .ok a := by
  have answer : r.result.mapError Halt.fault = .ok a := congrArg Prod.fst answered
  cases result : r.result with
  | error fault =>
      rw [result] at answer
      cases answer
  | ok b =>
      rw [result] at answer
      exact congrArg Except.ok (Except.ok.inj answer)

theorem fault_of_run_perform {r : Run α} {h : Halt} (halted : (perform r).run here s = (.error h, s')) :
    ∃ fault, h = .fault fault := by
  have answer : r.result.mapError Halt.fault = .error h := congrArg Prod.fst halted
  cases result : r.result with
  | error fault =>
      rw [result] at answer
      exact ⟨fault, (Except.error.inj answer).symm⟩
  | ok a =>
      rw [result] at answer
      cases answer

theorem run_ofExcept (x : Except Fault α) : (ofExcept x).run here s = (x.mapError Halt.fault, s) := by
  cases x <;> rfl

theorem run_printLines (lines : List String) (s : Session) :
    (printLines lines).run here s = (.ok (), { s with out := s.out ++ String.join (lines.map (· ++ "\n")) }) := by
  induction lines generalizing s with
  | nil => simp [printLines]
  | cons line rest ih =>
      rw [printLines, run_bind_of_ok (x := printLine line) (run_modify _), ih]
      simp [String.append_assoc]

/-- A text that is there is read, and nothing else is done. -/
theorem run_readText {written text : String} {p : Path} {bytes : List UInt8}
    (found : s.tree.find here.cwd written = .ok (p, .file bytes)) (read : Text.ofStored bytes = .ok text) :
    (readText written).run here s = (.ok text, s) := by
  have stored : s.tree.read here.cwd written = .ok bytes := by rw [FileTree.read, found]
  change (ofExcept ((s.tree.read here.cwd written).mapError Fault.access) >>= fun bytes =>
    ofExcept ((Text.ofStored bytes).mapError Fault.decoding)).run here s = _
  rw [stored, run_bind]
  change (ofExcept ((Text.ofStored bytes).mapError Fault.decoding)).run here s = _
  rw [read]
  rfl

/-- A text that is read is there. -/
theorem of_run_readText {written text : String} (read : ((readText written).run here s).1 = .ok text) :
    ∃ p bytes, s.tree.find here.cwd written = .ok (p, .file bytes) ∧ Text.ofStored bytes = .ok text := by
  change ((ofExcept ((s.tree.read here.cwd written).mapError Fault.access) >>= fun bytes =>
    ofExcept ((Text.ofStored bytes).mapError Fault.decoding)).run here s).1 = _ at read
  rw [FileTree.read] at read
  cases found : s.tree.find here.cwd written with
  | error problem =>
      rw [found] at read
      cases read
  | ok entry =>
      rw [found] at read
      obtain ⟨p, _ | bytes⟩ := entry
      · cases read
      · change ((ofExcept ((Text.ofStored bytes).mapError Fault.decoding)).run here s).1 = _ at read
        refine ⟨p, bytes, rfl, ?_⟩
        cases decoded : Text.ofStored bytes with
        | error fault =>
            rw [decoded] at read
            cases read
        | ok text' =>
            rw [decoded] at read
            exact congrArg Except.ok (Except.ok.inj read)

/-! ## What is kept -/

/-- A property of sessions that holds before a job holds after it, too. -/
def Keeps (here : Surroundings) (P : Session → Prop) (x : Job α) : Prop := ∀ s, P s → P (x.run here s).2

/-- A property of sessions that notes do not change, nor what the log is about. -/
structure Lasting (here : Surroundings) (P : Session → Prop) : Prop where
  noted : ∀ n s, P s → P (Job.noted here n s)
  setContext : ∀ repo s, P s → P { s with log := s.log.setContext repo none }

namespace Keeps

variable {P : Session → Prop}

theorem pure (a : α) : Keeps here P (Pure.pure a : Job α) := fun _ holds => holds

theorem halt (h : Halt) : Keeps here P (Job.halt h : Job α) := fun _ holds => holds

theorem bind {x : Job α} {f : α → Job β} (first : Keeps here P x) (later : ∀ a, Keeps here P (f a)) :
    Keeps here P (x >>= f) := by
  intro s holds
  have after := first s holds
  rw [run_bind]
  generalize x.run here s = y at after
  obtain ⟨_ | a, s⟩ := y
  · exact after
  · exact later a s after

theorem ofExcept (x : Except Fault α) : Keeps here P (Job.ofExcept x) := by
  cases x with
  | error fault => exact halt _
  | ok a => exact pure a

theorem surroundings : Keeps here P Job.surroundings := fun _ holds => holds

theorem session : Keeps here P Job.session := fun _ holds => holds

theorem readText (written : String) : Keeps here P (Job.readText written) :=
  bind session fun _ => bind surroundings fun _ => bind (ofExcept _) fun _ => ofExcept _

theorem note (lasting : Lasting here P) (level : Level) (text : String) : Keeps here P (Job.note level text) :=
  fun s holds => lasting.noted ⟨level, .command, text⟩ s holds

theorem perform (lasting : Lasting here P) (r : Run α) : Keeps here P (Job.perform r) := by
  intro s holds
  change P (r.notes.foldl (fun s n => Job.noted here n s) s)
  induction r.notes generalizing s with
  | nil => exact holds
  | cons n rest ih => exact ih _ (lasting.noted n s holds)

end Keeps

/-- What the log shows on the output are lines below warnings. -/
theorem lasting_lines (here : Surroundings) : Lasting here fun s => Log.Lines s.out where
  noted n s lines := lines.emit s.log ⟨n.level.number, n.origin.name, n.text, here.now⟩ s.tree
  setContext _ _ lines := lines

/-- A quiet log leaves the output alone. -/
theorem lasting_quiet (here : Surroundings) (out : String) : Lasting here fun s => s.log.IsQuiet ∧ s.out = out where
  noted n s := by
    rintro ⟨quiet, rfl⟩
    refine ⟨quiet, ?_⟩
    rw [noted, quiet.emit]
    exact String.append_empty
  setContext _ _ holds := holds

/-! ## What comes of it -/

/-- What holds after a job that comes to its end, provided that something held before it. -/
def Ends (here : Surroundings) (P : Session → Prop) (x : Job α) (Q : Session → Prop) : Prop :=
  ∀ s, P s → ∀ a s', x.run here s = (.ok a, s') → Q s'

namespace Ends

variable {P Q R : Session → Prop}

theorem pure (a : α) : Ends here P (Pure.pure a : Job α) P := by
  rintro s holds _ _ ⟨⟩
  exact holds

theorem halt (h : Halt) : Ends here P (Job.halt h : Job α) Q := by
  rintro _ _ _ _ ⟨⟩

theorem bind {x : Job α} {f : α → Job β} (first : Ends here P x Q) (later : ∀ a, Ends here Q (f a) R) :
    Ends here P (x >>= f) R := by
  intro s holds b s' ended
  obtain ⟨a, middle, answered, rest⟩ := ok_of_bind ended
  exact later a middle (first s holds a middle answered) b s' rest

end Ends

theorem Keeps.ends {P : Session → Prop} {x : Job α} (keeps : Keeps here P x) : Ends here P x P := by
  intro s holds a s' ended
  have after := keeps s holds
  rwa [ended] at after

/-! ## What is not looked at -/

/-- A job does the same whatever is in some files. -/
def Blind (here : Surroundings) (files : List Path) (x : Job α) : Prop :=
  ∀ s s', Session.Alike (LogFile.dayOf here.now) files s s' →
    (x.run here s).1 = (x.run here s').1 ∧
      Session.Alike (LogFile.dayOf here.now) files (x.run here s).2 (x.run here s').2

theorem noted_alike {files : List Path} (alike : Session.Alike (LogFile.dayOf here.now) files s s') (n : Note) :
    Session.Alike (LogFile.dayOf here.now) files (noted here n s) (noted here n s') := by
  obtain ⟨out, err, tree⟩ := alike.avoids.emit
    (r := ⟨n.level.number, n.origin.name, n.text, here.now⟩) alike.tree
  exact {
    log := alike.log
    out := by rw [noted, noted, ← alike.log, ← alike.out, ← out]
    err := by rw [noted, noted, ← alike.log, ← alike.err, ← err]
    tree := by
      rw [noted, noted, ← alike.log]
      exact tree
    avoids := alike.avoids }

namespace Blind

variable {files : List Path}

theorem pure (a : α) : Blind here files (Pure.pure a : Job α) := fun _ _ alike => ⟨rfl, alike⟩

theorem halt (h : Halt) : Blind here files (Job.halt h : Job α) := fun _ _ alike => ⟨rfl, alike⟩

theorem bind {x : Job α} {f : α → Job β} (first : Blind here files x) (later : ∀ a, Blind here files (f a)) :
    Blind here files (x >>= f) := by
  intro s s' alike
  obtain ⟨same, after⟩ := first s s' alike
  rw [run_bind, run_bind]
  revert same after
  generalize x.run here s = y
  generalize x.run here s' = y'
  obtain ⟨answer, s⟩ := y
  obtain ⟨_, s'⟩ := y'
  rintro rfl after
  cases answer with
  | error h => exact ⟨rfl, after⟩
  | ok a => exact later a s s' after

theorem note (level : Level) (text : String) : Blind here files (Job.note level text) :=
  fun _ _ alike => ⟨rfl, noted_alike alike ⟨level, .command, text⟩⟩

theorem perform (r : Run α) : Blind here files (Job.perform r) := by
  intro s s' alike
  refine ⟨rfl, ?_⟩
  change Session.Alike _ files (r.notes.foldl (fun s n => noted here n s) s)
    (r.notes.foldl (fun s n => noted here n s) s')
  induction r.notes generalizing s s' with
  | nil => exact alike
  | cons n rest ih => exact ih _ _ (noted_alike alike n)

/-- What the log is about is set without a look at any file. -/
theorem setContext (repo : Option String) :
    Blind here files (Job.modify fun s => { s with log := s.log.setContext repo none }) :=
  fun _ _ alike => ⟨rfl, congrArg (fun log => Log.setContext log repo none) alike.log, alike.out, alike.err, alike.tree,
    alike.avoids⟩

/-- A text that is read elsewhere is read in the same way. -/
theorem bind_readText {x : Job Unit} (blind : Blind here files x) {written text : String}
    (elsewhere : Path.resolve here.cwd written ∉ files) (alike : Session.Alike (LogFile.dayOf here.now) files s s')
    (read : ((x >>= fun _ => readText written).run here s).1 = .ok text) :
    ((x >>= fun _ => readText written).run here s').1 = .ok text ∧ Session.Alike (LogFile.dayOf here.now) files
      ((x >>= fun _ => readText written).run here s).2 ((x >>= fun _ => readText written).run here s').2 := by
  obtain ⟨same, after⟩ := blind s s' alike
  rw [run_bind] at read
  rw [run_bind, run_bind]
  revert same after read
  generalize x.run here s = y
  generalize x.run here s' = y'
  obtain ⟨answer, s⟩ := y
  obtain ⟨_, s'⟩ := y'
  rintro read rfl after
  cases answer with
  | error h => cases read
  | ok done =>
      obtain ⟨p, bytes, found, decoded⟩ := of_run_readText read
      have other : p ∉ files := FileTree.eq_resolve_of_locate (FileTree.find_eq_ok_iff.1 found).1 ▸ elsewhere
      have here' := run_readText found decoded
      have there' := run_readText (after.tree.find found other) decoded
      dsimp only
      rw [here', there']
      exact ⟨rfl, after⟩

end Blind

end Job

end Triage
