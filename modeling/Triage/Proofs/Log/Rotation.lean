import Triage.Proofs.Log.Archive

/-!
# Rotation

What is in the directory of a log file that was empty when the log was set up. The files of a day are the log file and
those put away under the first numbers, and they end with the last line. There are no more of them than allowed, but
every day has its own.
-/

namespace Triage

variable {t t₀ : FileTree} {day : String}

namespace LogFile

variable {f : LogFile} {lines : List (Time.Moment × String)}

/-- Nothing but the empty log file is in its directory. -/
structure Fresh (f : LogFile) (t : FileTree) : Prop where
  live : t.file? f.path = some []
  other : ∀ name, f.path.dropLast ++ [name] ≠ f.path → t.file? (f.path.dropLast ++ [name]) = none

/-- The days on which lines are written. -/
def days (lines : List (Time.Moment × String)) : List String := (lines.map fun entry => dayOf entry.1).dedup

/-- The files put away while lines are written: of each day as many as the file is put away on it, but no more than
allowed. -/
def rotations (f : LogFile) (lines : List (Time.Moment × String)) (t : FileTree) : List Path :=
  (days lines).flatMap fun day => f.numbered day (min (f.turns day lines t) f.backups)

/-- The octets of the first files of a day, from the oldest one to the log file. -/
def history (f : LogFile) (day : String) (count : Nat) (t : FileTree) : List UInt8 :=
  ((f.numbered day count).reverse ++ [f.path]).flatMap t.content

/-- What the directory of a log file holds of the octets that were written on one day. -/
structure Rotated (f : LogFile) (day : String) (turns backups : Nat) (written : List UInt8) (t : FileTree) : Prop where
  /-- The files are the log file and those put away under the first numbers. -/
  files : ∀ name, (t.file? (f.path.dropLast ++ [name])).isSome = true ↔
    f.path.dropLast ++ [name] ∈ f.path :: f.numbered day (min turns backups)
  distinct : (f.path :: f.numbered day (min turns backups)).Nodup
  /-- What is lost is what was written first. -/
  suffix : f.history day (min turns backups) t <:+ written
  /-- Nothing is lost as long as the file is put away no more often than files are allowed. -/
  whole : turns ≤ backups → f.history day (min turns backups) t = written

/-! ## Files put away -/

theorem mem_numbered {count : Nat} {q : Path} : q ∈ f.numbered day count ↔ ∃ n < count, q = f.backup day (n + 1) := by
  simp [numbered, eq_comm]

theorem nodup_numbered (plain : IsDay day) (count : Nat) : (f.numbered day count).Nodup := by
  refine List.nodup_range.map fun n n' same => ?_
  exact Nat.succ_injective (backup_injective plain plain same).2

theorem path_not_mem_numbered (inner : f.path ≠ []) (count : Nat) : f.path ∉ f.numbered day count := by
  rw [mem_numbered]
  rintro ⟨n, -, same⟩
  exact backup_ne_path inner same.symm

theorem isDay_of_mem_days (member : day ∈ days lines) : IsDay day := by
  obtain ⟨entry, -, rfl⟩ := List.mem_map.1 (List.mem_dedup.1 member)
  exact isDay_dayOf entry.1

/-- A file is put away on a day only if a line is written on it. -/
theorem mem_days_of_turns_pos (positive : 0 < f.turns day lines t) : day ∈ days lines := by
  rw [days, List.mem_dedup]
  induction lines generalizing t with
  | nil => exact absurd positive (Nat.lt_irrefl 0)
  | cons entry rest ih =>
      obtain ⟨now, line⟩ := entry
      rw [turns] at positive
      by_cases here : dayOf now = day
      · exact List.mem_cons.2 (.inl here.symm)
      · rw [if_neg fun both => here both.1, Nat.zero_add] at positive
        exact List.mem_cons_of_mem _ (ih positive)

theorem Avoids.get?_writeAll {q : Path} (avoids : ∀ entry ∈ lines, f.Avoids (dayOf entry.1) [q]) :
    (f.writeAll lines t).get? q = t.get? q := by
  induction lines generalizing t with
  | nil => rfl
  | cons entry rest ih =>
      obtain ⟨first, others⟩ := List.forall_mem_cons.1 avoids
      exact (ih others).trans (first.get?_write (List.mem_singleton_self q) _)

theorem Holds.history_eq {a : Archive} (holds : f.Holds a t) (plain : IsDay day) :
    f.history day (a.kept day).length t = a.text day := by
  have each : (f.numbered day (a.kept day).length).map t.content = a.kept day := by
    refine List.ext_getElem (by simp [numbered]) fun n _ last => ?_
    simp only [numbered, List.map_map, List.getElem_map, List.getElem_range, Function.comp_apply]
    exact FileTree.content_of_file? ((holds.kept day plain n).trans (List.getElem?_eq_getElem last))
  rw [history, List.flatMap_append, List.flatMap_def, List.map_reverse, each, List.flatMap_singleton, holds.live]
  rfl

/-! ## From an empty directory -/

/-- The archive of an empty log file. -/
def Archive.empty : Archive := ⟨[], fun _ => []⟩

namespace Fresh

theorem holds (fresh : f.Fresh t) : f.Holds .empty t := by
  have inner := FileTree.ne_nil_of_file? fresh.live
  refine ⟨FileTree.content_of_file? fresh.live, fun day _ n => ?_, fun _ => Nat.zero_le _⟩
  exact fresh.other _ (backup_ne_path inner)

theorem isSome (fresh : f.Fresh t) : (t.file? f.path).isSome = true := by
  rw [fresh.live]
  rfl

theorem turns_eq (fresh : f.Fresh t) (day : String) : f.turns day lines t = Archive.empty.turns f day lines :=
  (fresh.holds.writeAll fresh.isSome lines).2 day

theorem length_kept (fresh : f.Fresh t) (day : String) :
    ((Archive.empty.writeAll f lines).kept day).length = min (f.turns day lines t) f.backups := by
  rw [Archive.length_kept_writeAll fresh.holds.within, fresh.turns_eq]
  exact congrArg (min · f.backups) (Nat.zero_add _)

/-- The files in the directory are the log file and those put away. -/
theorem isSome_file?_writeAll_iff (fresh : f.Fresh t) {name : String} :
    ((f.writeAll lines t).file? (f.path.dropLast ++ [name])).isSome = true ↔
      f.path.dropLast ++ [name] = f.path ∨
        ∃ day ∈ days lines, f.path.dropLast ++ [name] ∈ f.numbered day (min (f.turns day lines t) f.backups) := by
  have inner := FileTree.ne_nil_of_file? fresh.live
  have holds := (fresh.holds.writeAll fresh.isSome lines).1
  have kept {day : String} (plain : IsDay day) (n : Nat) :
      ((f.writeAll lines t).file? (f.backup day (n + 1))).isSome = true ↔
        n < min (f.turns day lines t) f.backups := by
    rw [holds.kept day plain, isSome_getElem?, fresh.length_kept day]
  generalize place : f.path.dropLast ++ [name] = q
  constructor
  · intro there
    by_contra neither
    obtain ⟨apart, other⟩ := not_or.1 neither
    -- A path that is neither is never written.
    have avoids : ∀ entry ∈ lines, f.Avoids (dayOf entry.1) [q] := by
      intro entry member
      refine avoids_singleton inner apart fun number first last same => other ?_
      obtain ⟨n, rfl⟩ := Nat.exists_eq_add_of_le' first
      refine ⟨dayOf entry.1, List.mem_dedup.2 (List.mem_map.2 ⟨entry, member, rfl⟩), mem_numbered.2 ⟨n, ?_, same⟩⟩
      rwa [← kept (isDay_dayOf entry.1), ← same]
    rw [FileTree.file?_congr (Avoids.get?_writeAll avoids), ← place, fresh.other name (place ▸ apart)] at there
    cases there
  · rintro (rfl | ⟨day, among, member⟩)
    · exact isSome_file?_writeAll fresh.isSome
    · obtain ⟨n, few, rfl⟩ := mem_numbered.1 member
      exact (kept (isDay_of_mem_days among) n).2 few

/-- What is lost of the lines of one day is what was written first. -/
theorem rotated {today : Time.Moment} (fresh : f.Fresh t) (same : ∀ entry ∈ lines, dayOf entry.1 = dayOf today) :
    f.Rotated (dayOf today) (f.turns (dayOf today) lines t) f.backups (octets lines) (f.writeAll lines t) := by
  have inner := FileTree.ne_nil_of_file? fresh.live
  have holds := (fresh.holds.writeAll fresh.isSome lines).1
  obtain ⟨lost, parts, whole⟩ := Archive.text_writeAll fresh.holds.within same
  rw [← fresh.turns_eq] at whole
  rw [← holds.history_eq (isDay_dayOf today), fresh.length_kept] at parts
  refine ⟨fun name => ?_, ?_, ⟨lost, parts.symm⟩, fun few => ?_⟩
  · rw [fresh.isSome_file?_writeAll_iff, List.mem_cons]
    refine or_congr_right ⟨?_, fun member => ?_⟩
    · rintro ⟨day, among, member⟩
      obtain ⟨entry, written, rfl⟩ := List.mem_map.1 (List.mem_dedup.1 among)
      rwa [same entry written] at member
    · obtain ⟨n, few, -⟩ := mem_numbered.1 member
      have positive : 0 < f.turns (dayOf today) lines t := by omega
      exact ⟨dayOf today, mem_days_of_turns_pos positive, member⟩
  · exact List.nodup_cons.2 ⟨path_not_mem_numbered inner _, nodup_numbered (isDay_dayOf today) _⟩
  · rw [whole ((Nat.zero_add _).trans_le few)] at parts
    exact parts.symm

theorem mem_rotations_iff (fresh : f.Fresh t) {name : String} :
    f.path.dropLast ++ [name] ∈ f.rotations lines t ↔ f.path.dropLast ++ [name] ≠ f.path ∧
      ((f.writeAll lines t).file? (f.path.dropLast ++ [name])).isSome = true := by
  have inner := FileTree.ne_nil_of_file? fresh.live
  rw [fresh.isSome_file?_writeAll_iff, rotations, List.mem_flatMap]
  constructor
  · rintro ⟨day, among, member⟩
    refine ⟨fun same => path_not_mem_numbered inner _ (same ▸ member), .inr ⟨day, among, member⟩⟩
  · rintro ⟨apart, same | put⟩
    · exact absurd same apart
    · exact put

end Fresh

theorem nodup_rotations (f : LogFile) (lines : List (Time.Moment × String)) (t : FileTree) :
    (f.rotations lines t).Nodup := by
  refine List.nodup_flatMap.2 ⟨fun day among => nodup_numbered (isDay_of_mem_days among) _, ?_⟩
  refine List.Nodup.pairwise_of_forall_ne (List.nodup_dedup _) fun day among day' among' apart => ?_
  intro q member member'
  obtain ⟨n, -, rfl⟩ := mem_numbered.1 member
  obtain ⟨n', -, same⟩ := mem_numbered.1 member'
  exact apart (backup_injective (isDay_of_mem_days among) (isDay_of_mem_days among') same).1

theorem length_rotations (f : LogFile) (lines : List (Time.Moment × String)) (t : FileTree) :
    (f.rotations lines t).length = ((days lines).map fun day => min (f.turns day lines t) f.backups).sum := by
  simp [rotations, numbered, List.length_flatMap]

end LogFile

namespace Log

variable {log log' : Log} {cwd : Path} {levelName : Option String} {written : String} {size backups : Nat}
  {quiet : Bool} {f : LogFile}

/-- The tree after some records, each in its context. -/
def emitAll (log : Log) (records : List (String × Record)) (t : FileTree) : FileTree :=
  records.foldl (fun t entry => ({ log with context := entry.1 }.emit entry.2 t).tree) t

/-- The lines of the records that go to the log file, with their times. -/
def lines (log : Log) (records : List (String × Record)) : List (Time.Moment × String) :=
  (records.filter fun entry => log.admits entry.2.level && decide (Level.debug.number ≤ entry.2.level)).map
    fun entry => (entry.2.time, entry.2.line entry.1 .standard ++ "\n")

theorem tree_emit (sinks : log.sinks = some ⟨quiet, some f⟩) (context : String) (r : Record) (t : FileTree) :
    ({ log with context }.emit r t).tree = if log.admits r.level && decide (Level.debug.number ≤ r.level) then
      f.write r.time (r.line context .standard ++ "\n") t else t := by
  have admits : admits { log with context } r.level = log.admits r.level := rfl
  rw [emit, admits]
  cases log.admits r.level with
  | false => rfl
  | true => simp [sinks]

/-- Records are logged by writing their lines to the file. -/
theorem emitAll_eq (sinks : log.sinks = some ⟨quiet, some f⟩) (records : List (String × Record)) :
    log.emitAll records t = f.writeAll (log.lines records) t := by
  induction records generalizing t with
  | nil => rfl
  | cons entry rest ih =>
      obtain ⟨context, r⟩ := entry
      refine ih.trans ?_
      dsimp only
      rw [tree_emit sinks, lines, lines, List.filter_cons]
      split
      · rfl
      · rfl

/-- A log that is set up with a file in an empty directory starts with the empty file there. -/
theorem fresh_of_setUp (made : log.setUp cwd levelName written size backups quiet t = (log', t₀, none))
    (sinks : log'.sinks = some ⟨quiet, some f⟩) (empty : ∀ name, t.get? (f.path.dropLast ++ [name]) = none) :
    f.Fresh t₀ ∧ f.backups = backups := by
  rw [setUp] at made
  split at made
  · obtain ⟨rfl, -⟩ := Prod.mk.inj made
    cases sinks
  · obtain ⟨before, untouched, ⟨fault, opens⟩ | ⟨p, -, inner, other, opens⟩⟩ :=
      LogFile.open?_cases cwd written size backups t
    · rw [opens] at made
      cases made
    · rw [opens] at made
      obtain ⟨rfl, rest⟩ := Prod.mk.inj made
      obtain ⟨rfl, -⟩ := Prod.mk.inj rest
      cases sinks
      have clear (name : String) : before.file? (p.dropLast ++ [name]) = none := by
        rw [(untouched _).file?, FileTree.file?, empty name]
      refine ⟨⟨?_, fun name apart => ?_⟩, rfl⟩
      · have missing := clear (p.getLastD "")
        rw [← LogFile.path_eq (f := ⟨p, size, backups⟩) inner] at missing
        rw [FileTree.file?_append inner, FileTree.content_of_file?_eq_none missing]
        rfl
      · rw [FileTree.file?_congr (FileTree.get?_append_of_ne inner apart)]
        exact clear name

/-- What stands in the directory of a log file after records of one day, if the directory was empty when the log was
set up. -/
theorem rotated_on_day {today : Time.Moment} {records : List (String × Record)}
    (made : log.setUp cwd levelName written size backups quiet t = (log', t₀, none))
    (sinks : log'.sinks = some ⟨quiet, some f⟩) (empty : ∀ name, t.get? (f.path.dropLast ++ [name]) = none)
    (same : ∀ entry ∈ records, LogFile.dayOf entry.2.time = LogFile.dayOf today) :
    f.Rotated (LogFile.dayOf today) (f.turns (LogFile.dayOf today) (log'.lines records) t₀) backups
      (LogFile.octets (log'.lines records)) (log'.emitAll records t₀) := by
  obtain ⟨fresh, rfl⟩ := fresh_of_setUp made sinks empty
  rw [emitAll_eq sinks]
  refine fresh.rotated fun entry member => ?_
  obtain ⟨record, among, rfl⟩ := List.mem_map.1 member
  exact same record (List.mem_of_mem_filter among)

/-- The empty log file. -/
def opened : FileTree := .append .empty ["app.log"] []

/-- A record of a day of March. -/
def said (day : Nat) (text : String) : String × Record :=
  ("app", ⟨Level.info.number, "app", text, ⟨⟨2026, 3, day⟩, 12, 0, 0, 0, some 0⟩⟩)

/-- A log with a file for one line, besides which one more is kept. -/
def brief : Log := ⟨Level.info.number, some ⟨false, some ⟨["app.log"], 60, 1⟩⟩, standardContext⟩

/-- Three records of one day. -/
def briefing : List (String × Record) := ["one", "two", "three"].map (said 2)

/-- Of three lines the first one is lost. -/
theorem brief_rotated_on_day : initial.setUp [] none "app.log" 60 1 false .empty = (brief, opened, none) ∧
    (⟨["app.log"], 60, 1⟩ : LogFile).Rotated "2026-03-02" 2 1 (LogFile.octets (brief.lines briefing))
      (brief.emitAll briefing opened) := by
  have day : LogFile.dayOf (said 2 "one").2.time = "2026-03-02" := by decide +kernel
  have turns : (⟨["app.log"], 60, 1⟩ : LogFile).turns "2026-03-02" (brief.lines briefing) opened = 2 := by
    decide +kernel
  have same : ∀ entry ∈ briefing, LogFile.dayOf entry.2.time = LogFile.dayOf (said 2 "one").2.time := by
    intro entry member
    obtain ⟨text, -, rfl⟩ := List.mem_map.1 member
    rfl
  have made : initial.setUp [] none "app.log" 60 1 false .empty = (brief, opened, none) := rfl
  have rotated := rotated_on_day made rfl (fun name => rfl) same
  rw [day, turns] at rotated
  exact ⟨made, rotated⟩

/-- What is put away besides the log file, if its directory was empty when the log was set up. The bound holds for
each day. -/
theorem rotations_of_days (made : log.setUp cwd levelName written size backups quiet t = (log', t₀, none))
    (sinks : log'.sinks = some ⟨quiet, some f⟩) (empty : ∀ name, t.get? (f.path.dropLast ++ [name]) = none)
    (records : List (String × Record)) :
    (f.rotations (log'.lines records) t₀).Nodup ∧
      (∀ name, f.path.dropLast ++ [name] ∈ f.rotations (log'.lines records) t₀ ↔
        f.path.dropLast ++ [name] ≠ f.path ∧
          ((log'.emitAll records t₀).file? (f.path.dropLast ++ [name])).isSome = true) ∧
      (f.rotations (log'.lines records) t₀).length =
        ((LogFile.days (log'.lines records)).map fun day =>
          min (f.turns day (log'.lines records) t₀) backups).sum := by
  obtain ⟨fresh, rfl⟩ := fresh_of_setUp made sinks empty
  rw [emitAll_eq sinks]
  exact ⟨f.nodup_rotations _ _, fun _ => fresh.mem_rotations_iff, f.length_rotations _ _⟩

/-- A log with a file for one line, besides which one more is kept. -/
def scarce : Log := ⟨Level.info.number, some ⟨false, some ⟨["app.log"], 1, 1⟩⟩, standardContext⟩

/-- Two records of a day and one of the next day. -/
def report : List (String × Record) := [said 1 "one", said 1 "two", said 2 "three"]

/-- Each of the two days has the one file that is allowed. -/
theorem report_rotations : initial.setUp [] none "app.log" 1 1 false .empty = (scarce, opened, none) ∧
    ((⟨["app.log"], 1, 1⟩ : LogFile).rotations (scarce.lines report) opened).length = 2 := by
  have made : initial.setUp [] none "app.log" 1 1 false .empty = (scarce, opened, none) := rfl
  have counted := (rotations_of_days made rfl (fun name => rfl) report).2.2
  refine ⟨made, counted.trans ?_⟩
  decide +kernel

/-- Although one file is allowed, there are two after records whose times are in order. -/
theorem two_files_beside_one_allowed : initial.setUp [] none "app.log" 1 1 false .empty = (scarce, opened, none) ∧
    (report.map fun entry => entry.2.time.instant).Pairwise (· ≤ ·) ∧
    ((scarce.emitAll report opened).file? ["app.2026-03-01.log.1"]).isSome = true ∧
    ((scarce.emitAll report opened).file? ["app.2026-03-02.log.1"]).isSome = true := by
  refine ⟨rfl, ?_, ?_, ?_⟩
  · decide +kernel
  · decide +kernel
  · decide +kernel

end Log

end Triage
