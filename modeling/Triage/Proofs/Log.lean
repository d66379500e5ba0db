import Triage.Log
import Triage.Proofs.FileTree
import Triage.Proofs.FileTree.Change

/-!
# What the log leaves alone

The log touches its file, those that are put away, and the directories on the way to them. What it shows on the
output are lines of records below warnings, and a quiet log shows none there.
-/

namespace Triage

variable {t t' : FileTree} {files : List Path} {day : String}

namespace LogFile

variable {f : LogFile}

/-- None of some files is the log file or one of those that are put away. -/
structure Avoids (f : LogFile) (day : String) (files : List Path) : Prop where
  inner : f.path ≠ []
  file : f.path ∉ files
  backups : ∀ number, 1 ≤ number → number ≤ f.backups → f.backup day number ∉ files

theorem backup_ne_nil (f : LogFile) (day : String) (number : Nat) : f.backup day number ≠ [] :=
  List.append_ne_nil_of_right_ne_nil _ (List.cons_ne_nil _ _)

theorem Avoids.shift (avoids : f.Avoids day files) {n : Nat} (few : n < f.backups)
    (alike : t.AlikeExcept files t') : (f.shift day n t).AlikeExcept files (f.shift day n t') := by
  induction n generalizing t t' with
  | zero => exact alike
  | succ n ih =>
      refine ih (Nat.lt_of_succ_lt few) (alike.move (backup_ne_nil _ _ _) ?_ (backup_ne_nil _ _ _) ?_)
      · exact avoids.backups _ (Nat.succ_pos n) (Nat.le_of_lt few)
      · exact avoids.backups _ (Nat.succ_pos _) few

theorem Avoids.putAway (avoids : f.Avoids day files) (alike : t.AlikeExcept files t') :
    (f.putAway day t).AlikeExcept files (f.putAway day t') := by
  rw [LogFile.putAway, LogFile.putAway]
  cases kept : f.backups with
  | zero => exact alike
  | succ n =>
      have few : n < f.backups := kept ▸ Nat.lt_succ_self n
      exact (avoids.shift few alike).move avoids.inner avoids.file (backup_ne_nil _ _ _)
        (avoids.backups 1 (Nat.le_refl 1) (Nat.succ_le_of_lt (Nat.zero_lt_of_lt few)))

theorem Avoids.write {now : Time.Moment} (avoids : f.Avoids (dayOf now) files) (line : String)
    (alike : t.AlikeExcept files t') : (f.write now line t).AlikeExcept files (f.write now line t') := by
  have full : f.isFull t line = f.isFull t' line := by rw [isFull, isFull, alike.content avoids.file]
  rw [LogFile.write, LogFile.write, full]
  cases f.isFull t' line with
  | true => exact (avoids.putAway alike).append avoids.inner avoids.file
  | false => exact alike.append avoids.inner avoids.file

/-! ### One path -/

variable {q : Path}

theorem get?_shift {n : Nat} (apart : ∀ number, 1 ≤ number → number ≤ n + 1 → q ≠ f.backup day number) :
    (f.shift day n t).get? q = t.get? q := by
  induction n generalizing t with
  | zero => rfl
  | succ n ih =>
      rw [LogFile.shift, ih fun number first last => apart number first (Nat.le_succ_of_le last)]
      exact FileTree.get?_move_of_ne (backup_ne_nil _ _ _) (backup_ne_nil _ _ _)
        (apart _ (Nat.succ_pos n) (Nat.le_succ _)) (apart _ (Nat.succ_pos _) (Nat.le_refl _))

theorem Avoids.get?_putAway (avoids : f.Avoids day files) (member : q ∈ files) :
    (f.putAway day t).get? q = t.get? q := by
  have apart (number : Nat) (first : 1 ≤ number) (last : number ≤ f.backups) : q ≠ f.backup day number :=
    fun same => avoids.backups number first last (same ▸ member)
  rw [LogFile.putAway]
  cases kept : f.backups with
  | zero => rfl
  | succ n =>
      rw [kept] at apart
      have live : q ≠ f.path := fun same => avoids.file (same ▸ member)
      exact (FileTree.get?_move_of_ne avoids.inner (backup_ne_nil _ _ _) live
        (apart 1 (Nat.le_refl 1) (Nat.succ_pos n))).trans (get?_shift apart)

theorem Avoids.get?_write {now : Time.Moment} (avoids : f.Avoids (dayOf now) files) (member : q ∈ files)
    (line : String) : (f.write now line t).get? q = t.get? q := by
  have live : q ≠ f.path := fun same => avoids.file (same ▸ member)
  rw [LogFile.write]
  refine (FileTree.get?_append_of_ne avoids.inner live).trans ?_
  split
  · exact avoids.get?_putAway member
  · rfl

/-! ## Opening -/

/-- The log file at a written path and those that are put away. -/
def kept (cwd : Path) (written : String) (backups : Nat) (day : String) : List Path :=
  let file : LogFile := ⟨Path.resolve cwd (Path.text (Path.resolve cwd written)), 0, 0⟩
  file.path :: (List.range backups).map fun i => file.backup day (i + 1)

/-- The places that are looked at on the way to the log file at a written path. -/
def ways (cwd : Path) (written : String) : List Path :=
  Path.steps cwd (Path.folder written) ++ Path.steps cwd (Path.text (Path.resolve cwd written))

variable {cwd : Path} {written : String} {limit backups : Nat}

/-- The log file is opened once its directory is made, unless that failed. -/
def opening (cwd : Path) (written : String) (limit backups : Nat) (made : FileTree × Option AccessFault) :
    FileTree × Except AccessFault LogFile :=
  match made with
  | (t, some f) => (t, .error f)
  | (t, none) =>
    let path := Path.resolve cwd written
    match t.locate cwd path.text with
    | .error problem => (t, .error ⟨problem, path.text⟩)
    | .ok p =>
      match t.get? p with
      | some .directory => (t, .error ⟨.isDirectory, path.text⟩)
      | _ => (t.append p [], .ok ⟨p, limit, backups⟩)

theorem open?_eq (t : FileTree) : open? cwd written limit backups t = opening cwd written limit backups
    (if Path.folder written == "" then (t, none) else t.makeDirectories cwd (Path.folder written)) := by
  rw [open?]
  cases (if Path.folder written == "" then (t, none) else t.makeDirectories cwd (Path.folder written)) with
  | mk t fault => cases fault <;> rfl

theorem opening_cases (made : FileTree × Option AccessFault) :
    (∃ fault, opening cwd written limit backups made = (made.1, .error fault)) ∨
      ∃ p, p = Path.resolve cwd (Path.text (Path.resolve cwd written)) ∧ p ≠ [] ∧
        made.1.get? p ≠ some .directory ∧
        opening cwd written limit backups made = (made.1.append p [], .ok ⟨p, limit, backups⟩) := by
  obtain ⟨t, fault⟩ := made
  cases fault with
  | some f => exact .inl ⟨f, rfl⟩
  | none =>
      simp only [opening]
      cases located : t.locate cwd (Path.text (Path.resolve cwd written)) with
      | error problem => exact .inl ⟨_, rfl⟩
      | ok p =>
          by_cases there : t.get? p = some .directory
          · exact .inl ⟨⟨.isDirectory, Path.text (Path.resolve cwd written)⟩, by simp only [there]⟩
          · have inner : p ≠ [] := by
              rintro rfl
              exact there rfl
            refine .inr ⟨p, FileTree.eq_resolve_of_locate located, inner, there, ?_⟩
            dsimp only
            split
            · rename_i directory
              exact absurd directory there
            · rfl

/-- Directories are made, and then the log file is opened where its written path leads, or there is a fault. -/
theorem open?_cases (cwd : Path) (written : String) (limit backups : Nat) (t : FileTree) :
    ∃ made : FileTree, (∀ q, t.Untouched made q) ∧
      ((∃ fault, open? cwd written limit backups t = (made, .error fault)) ∨
        ∃ p, p = Path.resolve cwd (Path.text (Path.resolve cwd written)) ∧ p ≠ [] ∧
          made.get? p ≠ some .directory ∧
          open? cwd written limit backups t = (made.append p [], .ok ⟨p, limit, backups⟩)) := by
  rw [open?_eq]
  refine ⟨_, fun q => ?_, opening_cases _⟩
  split
  · exact .refl t q
  · exact FileTree.untouched_makeDirectories t cwd _ q

/-- Log files that were opened in the same way and leave some files alone, in trees that differ in these only. -/
structure OpenedAlike (day : String) (files : List Path) (x y : FileTree × Except AccessFault LogFile) : Prop where
  same : x.2 = y.2
  tree : x.1.AlikeExcept files y.1
  avoids : ∀ f, x.2 = .ok f → f.Avoids day files

theorem OpenedAlike.error (alike : t.AlikeExcept files t') (fault : AccessFault) :
    OpenedAlike day files (t, .error fault) (t', .error fault) :=
  ⟨rfl, alike, by rintro _ ⟨⟩⟩

theorem backup_not_mem (other : ∀ p ∈ kept cwd written backups day, p ∉ files) (number : Nat) (first : 1 ≤ number)
    (last : number ≤ backups) :
    (⟨Path.resolve cwd (Path.text (Path.resolve cwd written)), 0, 0⟩ : LogFile).backup day number ∉ files := by
  refine other _ (List.mem_cons_of_mem _ (List.mem_map.2 ⟨number - 1, List.mem_range.2 (by omega), ?_⟩))
  rw [Nat.sub_add_cancel first]

/-- Where the log file may stand, it is opened. -/
theorem openedAlike_append {p : Path} (limit : Nat) (alike : t.AlikeExcept files t') (free : p ∉ files)
    (inner : p ≠ [])
    (backup : ∀ number, 1 ≤ number → number ≤ backups → (⟨p, 0, 0⟩ : LogFile).backup day number ∉ files) :
    OpenedAlike day files (t.append p [], .ok ⟨p, limit, backups⟩) (t'.append p [], .ok ⟨p, limit, backups⟩) := by
  refine ⟨rfl, alike.append inner free, ?_⟩
  rintro _ ⟨rfl⟩
  exact ⟨inner, free, backup⟩

theorem opening_alike (limit : Nat) {fault : Option AccessFault} (alike : t.AlikeExcept files t')
    (clear : FileTree.Clear files cwd (Path.text (Path.resolve cwd written)))
    (other : ∀ p ∈ kept cwd written backups day, p ∉ files) :
    OpenedAlike day files (opening cwd written limit backups (t, fault))
      (opening cwd written limit backups (t', fault)) := by
  cases fault with
  | some f => exact .error alike f
  | none =>
      simp only [opening]
      rw [alike.locate_eq clear]
      cases located : t'.locate cwd (Path.text (Path.resolve cwd written)) with
      | error problem => exact .error alike _
      | ok p =>
          have goes := FileTree.eq_resolve_of_locate located
          have way := Path.resolve_mem_steps cwd (Path.text (Path.resolve cwd written))
          rw [← goes] at way
          have free : p ∉ files := clear p way
          simp only [alike.other p free]
          -- A file that is there and a place that is free are opened alike.
          have opens (there : t'.get? p ≠ some .directory) :
              OpenedAlike day files (t.append p [], .ok ⟨p, limit, backups⟩)
                (t'.append p [], .ok ⟨p, limit, backups⟩) := by
            have inner : p ≠ [] := by
              rintro rfl
              exact there rfl
            exact openedAlike_append limit alike free inner (goes ▸ backup_not_mem other)
          cases there : t'.get? p with
          | none => exact opens (by simp [there])
          | some entry =>
              cases entry with
              | directory => exact .error alike _
              | file content => exact opens (by simp [there])

/-- A log file is opened in the same way whatever is in files at other places, and leaves them alone. -/
theorem open?_alike (limit : Nat) (alike : t.AlikeExcept files t')
    (other : ∀ p ∈ kept cwd written backups day, p ∉ files) (apart : ∀ p ∈ ways cwd written, p ∉ files) :
    OpenedAlike day files (open? cwd written limit backups t) (open? cwd written limit backups t') := by
  have clear : FileTree.Clear files cwd (Path.text (Path.resolve cwd written)) := fun q member =>
    apart q (List.mem_append_right _ member)
  rw [open?_eq, open?_eq]
  split
  · exact opening_alike limit alike clear other
  · obtain ⟨same, made⟩ := alike.makeDirectories fun q member => apart q (List.mem_append_left _ member)
    revert same made
    generalize t.makeDirectories cwd (Path.folder written) = x
    generalize t'.makeDirectories cwd (Path.folder written) = y
    obtain ⟨t, fault⟩ := x
    obtain ⟨t', _⟩ := y
    rintro rfl made
    exact opening_alike limit made clear other

end LogFile

namespace Log

variable {log : Log}

/-! ## Files -/

/-- None of some files is one that the log writes. -/
def Avoids (log : Log) (day : String) (files : List Path) : Prop :=
  ∀ sinks f, log.sinks = some sinks → sinks.file = some f → f.Avoids day files

/-- A record is shown in the same way whatever is in the files, and leaves them alone. -/
theorem Avoids.emit {r : Record} (avoids : log.Avoids (LogFile.dayOf r.time) files) (alike : t.AlikeExcept files t') :
    (log.emit r t).out = (log.emit r t').out ∧ (log.emit r t).err = (log.emit r t').err ∧
      (log.emit r t).tree.AlikeExcept files (log.emit r t').tree := by
  rw [Log.emit, Log.emit]
  split
  · exact ⟨rfl, rfl, alike⟩
  · cases given : log.sinks with
    | none => exact ⟨rfl, rfl, alike⟩
    | some sinks =>
        refine ⟨rfl, rfl, ?_⟩
        cases file : sinks.file with
        | none => simpa only [file] using alike
        | some f =>
            simp only [file]
            split
            · exact (avoids sinks f given file).write _ alike
            · exact alike

/-- A record leaves all files alone but those that the log writes. -/
theorem Avoids.get?_emit {r : Record} {q : Path} (avoids : log.Avoids (LogFile.dayOf r.time) files) (member : q ∈ files)
    (t : FileTree) : (log.emit r t).tree.get? q = t.get? q := by
  rw [Log.emit]
  split
  · rfl
  · cases given : log.sinks with
    | none => rfl
    | some sinks =>
        cases file : sinks.file with
        | none => simp only [file]
        | some f =>
            simp only [file]
            split
            · exact (avoids sinks f given file).get?_write member _
            · rfl

/-! ## The output -/

/-- A text of lines that the log shows for records below warnings. -/
inductive Lines : String → Prop
  | none : Lines ""
  | more {text context : String} {r : Record} (lines : Lines text) (minor : r.level < Level.warning.number) :
      Lines (text ++ (r.paint (r.line context .standard) ++ "\n"))

theorem Lines.emit {text : String} (lines : Lines text) (log : Log) (r : Record) (t : FileTree) :
    Lines (text ++ (log.emit r t).out) := by
  rw [Log.emit]
  split
  · rwa [String.append_empty]
  · cases log.sinks with
    | none => rwa [String.append_empty]
    | some sinks =>
        dsimp only
        rw [only]
        split
        · rename_i shown
          obtain ⟨-, minor⟩ := Bool.and_eq_true_iff.1 shown
          exact .more lines (by simpa using minor)
        · rwa [String.append_empty]

/-- Nothing below warnings goes to the console. -/
def IsQuiet (log : Log) : Prop := ∀ sinks, log.sinks = some sinks → sinks.quiet = true

theorem IsQuiet.emit (quiet : log.IsQuiet) (r : Record) (t : FileTree) : (log.emit r t).out = "" := by
  rw [Log.emit]
  split
  · rfl
  · cases given : log.sinks with
    | none => rfl
    | some sinks => simp [only, quiet sinks given]

/-! ## Setting up -/

variable {cwd : Path} {levelName : Option String} {written : String} {size backups : Nat} {quiet : Bool}

/-- The log is set up in the same way whatever is in files at other places, and leaves them alone. -/
theorem setUp_alike (log : Log) (levelName : Option String) (size : Nat) (quiet : Bool) (alike : t.AlikeExcept files t')
    (other : written ≠ "" → ∀ p ∈ LogFile.kept cwd written backups day, p ∉ files)
    (apart : written ≠ "" → ∀ p ∈ LogFile.ways cwd written, p ∉ files) :
    (log.setUp cwd levelName written size backups quiet t).1 =
        (log.setUp cwd levelName written size backups quiet t').1 ∧
      (log.setUp cwd levelName written size backups quiet t).2.2 =
        (log.setUp cwd levelName written size backups quiet t').2.2 ∧
      (log.setUp cwd levelName written size backups quiet t).2.1.AlikeExcept files
        (log.setUp cwd levelName written size backups quiet t').2.1 ∧
      (log.setUp cwd levelName written size backups quiet t).1.Avoids day files := by
  rw [setUp, setUp]
  split
  · refine ⟨rfl, rfl, alike, ?_⟩
    rintro _ f ⟨rfl⟩ file
    cases file
  · rename_i given
    have named : written ≠ "" := fun blank => given (beq_iff_eq.2 blank)
    obtain ⟨same, like, avoids⟩ := LogFile.open?_alike size alike (other named) (apart named)
    revert same like avoids
    generalize LogFile.open? cwd written size backups t = x
    generalize LogFile.open? cwd written size backups t' = y
    obtain ⟨t, opened⟩ := x
    obtain ⟨t', _⟩ := y
    rintro rfl like avoids
    cases opened with
    | error fault =>
        refine ⟨rfl, rfl, like, ?_⟩
        rintro _ f ⟨rfl⟩ file
        cases file
    | ok f =>
        refine ⟨rfl, rfl, like, ?_⟩
        rintro _ _ ⟨rfl⟩ ⟨rfl⟩
        exact avoids f rfl

/-- Setting the log up leaves what is there alone, apart from the log file, and so does the log from then on. -/
theorem untouched_setUp (log : Log) (levelName : Option String) (size : Nat) (quiet : Bool) (t : FileTree) {q : Path}
    (other : written ≠ "" → q ∉ LogFile.kept cwd written backups day) :
    t.Untouched (log.setUp cwd levelName written size backups quiet t).2.1 q ∧
      (log.setUp cwd levelName written size backups quiet t).1.Avoids day [q] := by
  rw [setUp]
  split
  · refine ⟨.refl t q, ?_⟩
    rintro _ f ⟨rfl⟩ file
    cases file
  · rename_i given
    have apart := other fun blank => given (beq_iff_eq.2 blank)
    obtain ⟨made, untouched, ⟨fault, opens⟩ | ⟨p, place, inner, -, opens⟩⟩ :=
      LogFile.open?_cases cwd written size backups t
    · rw [opens]
      refine ⟨untouched q, ?_⟩
      rintro _ f ⟨rfl⟩ file
      cases file
    · rw [opens]
      have live : q ≠ p := by
        rintro rfl
        rw [LogFile.kept, ← place] at apart
        exact apart (List.mem_cons_self ..)
      refine ⟨(untouched q).trans (.inl (FileTree.get?_append_of_ne inner live)), ?_⟩
      rintro _ _ ⟨rfl⟩ ⟨rfl⟩
      refine ⟨inner, by simpa using live.symm, fun number first last => ?_⟩
      have clear : ∀ file ∈ LogFile.kept cwd written backups day, file ∉ [q] := fun file member => by
        simpa using fun same : file = q => apart (same ▸ member)
      exact place ▸ LogFile.backup_not_mem clear number first last

/-- What is there before the log is set up is there afterwards. -/
theorem extends_setUp (log : Log) (levelName : Option String) (size backups : Nat) (quiet : Bool) (t : FileTree) :
    t.Extends (log.setUp cwd levelName written size backups quiet t).2.1 := by
  rw [setUp]
  split
  · exact .of_untouched (.refl t)
  · obtain ⟨made, untouched, ⟨fault, opens⟩ | ⟨p, -, inner, other, opens⟩⟩ :=
      LogFile.open?_cases cwd written size backups t
    · rw [opens]
      exact .of_untouched untouched
    · rw [opens]
      exact .append (.of_untouched untouched) inner other

theorem setUp_quiet (log : Log) (t : FileTree) : (log.setUp cwd levelName written size backups true t).1.IsQuiet := by
  rw [setUp]
  split
  · rintro _ ⟨rfl⟩
    rfl
  · generalize LogFile.open? cwd written size backups t = x
    obtain ⟨t, opened⟩ := x
    cases opened with
    | error fault =>
        rintro _ ⟨rfl⟩
        rfl
    | ok f =>
        rintro _ ⟨rfl⟩
        rfl

end Log

end Triage
