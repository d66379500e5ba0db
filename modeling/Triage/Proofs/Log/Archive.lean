import Triage.Proofs.Log
import Triage.Proofs.Log.Names

/-!
# Archives

The archive of a log file is what stands in it and in the files that were put away. A tree holds an archive if its
files are those of the archive. Writing a line to the tree is writing it to the archive, so what becomes of many lines
is told by the archive alone.
-/

namespace Triage.LogFile

variable {f : LogFile} {t : FileTree} {day day' : String} {q : Path}

/-- The paths of the first so many files that are put away on a day, the newest first. -/
def numbered (f : LogFile) (day : String) (count : Nat) : List Path :=
  (List.range count).map fun i => f.backup day (i + 1)

/-- Writes lines one after another, each at its time. -/
def writeAll (f : LogFile) (lines : List (Time.Moment × String)) (t : FileTree) : FileTree :=
  lines.foldl (fun t entry => f.write entry.1 entry.2 t) t

/-- How often the file is put away on a day while lines are written. -/
def turns (f : LogFile) (day : String) : List (Time.Moment × String) → FileTree → Nat
  | [], _ => 0
  | (now, line) :: rest, t =>
    (if dayOf now = day ∧ f.isFull t line then 1 else 0) + turns f day rest (f.write now line t)

/-- The octets of lines one after another. -/
def octets (lines : List (Time.Moment × String)) : List UInt8 := lines.flatMap fun entry => Text.Utf8.encode entry.2

/-- After a line is written the log file is there. -/
theorem isSome_file?_write (inner : f.path ≠ []) (now : Time.Moment) (line : String) :
    ((f.write now line t).file? f.path).isSome = true := by
  rw [write, FileTree.file?_append inner]
  rfl

theorem isSome_file?_writeAll {lines : List (Time.Moment × String)} (there : (t.file? f.path).isSome = true) :
    ((f.writeAll lines t).file? f.path).isSome = true := by
  obtain ⟨bytes, file⟩ := Option.isSome_iff_exists.1 there
  have inner := FileTree.ne_nil_of_file? file
  induction lines using List.reverseRecOn with
  | nil => exact there
  | append_singleton rest entry =>
      rw [writeAll, List.foldl_append]
      exact isSome_file?_write inner entry.1 entry.2

/-! ## Files put away -/

/-- Every file moves up by one number if none is missing below it. -/
theorem file?_shift {n number : Nat} (plain : IsDay day)
    (solid : ∀ m, 1 ≤ m → m ≤ n → (t.file? (f.backup day (m + 1))).isSome = true →
      (t.file? (f.backup day m)).isSome = true)
    (first : 1 ≤ number) (last : number ≤ n) :
    (f.shift day n t).file? (f.backup day (number + 1)) = t.file? (f.backup day number) := by
  induction n generalizing t with
  | zero => omega
  | succ n ih =>
      have apart {m m' : Nat} (other : m ≠ m') : f.backup day m ≠ f.backup day m' :=
        fun same => other (backup_injective plain plain same).2
      have inner (m : Nat) : f.backup day m ≠ [] := backup_ne_nil f day m
      rw [shift]
      rcases Nat.lt_or_ge n number with above | below
      · -- The file with the greatest number is moved first, and then left alone.
        obtain rfl : number = n + 1 := Nat.le_antisymm last above
        have later := get?_shift (f := f) (t := t.move (f.backup day (n + 1)) (f.backup day (n + 2))) (n := n)
          fun m _ few => show f.backup day (n + 2) ≠ f.backup day m from apart (by omega)
        rw [FileTree.file?_congr later]
        exact FileTree.file?_move_target (inner _) (solid _ first last)
      · have kept (m : Nat) (few : m ≤ n) :
            (t.move (f.backup day (n + 1)) (f.backup day (n + 2))).file? (f.backup day m) =
              t.file? (f.backup day m) :=
          FileTree.file?_congr (FileTree.get?_move_of_ne (inner _) (inner _) (apart (by omega)) (apart (by omega)))
        refine (ih ?_ below).trans (kept number below)
        intro m start few there
        rw [kept m few]
        rcases Nat.lt_or_ge m n with under | top
        · rw [kept (m + 1) under] at there
          exact solid m start (Nat.le_succ_of_le few) there
        · obtain rfl : m = n := Nat.le_antisymm few top
          have gone : (t.move (f.backup day (m + 1)) (f.backup day (m + 2))).get? (f.backup day (m + 1)) = none :=
            FileTree.get?_move_source (inner _) (inner _) (apart (by omega))
          rw [FileTree.file?, gone] at there
          cases there

theorem avoids_singleton (inner : f.path ≠ []) (apart : q ≠ f.path)
    (other : ∀ number, 1 ≤ number → number ≤ f.backups → q ≠ f.backup day number) : f.Avoids day [q] :=
  ⟨inner, by simpa using apart.symm, fun number first last => by simpa using (other number first last).symm⟩

section PutAway

variable {n : Nat} {bytes : List UInt8}

theorem content_putAway (backups : f.backups = n + 1) (inner : f.path ≠ []) :
    (f.putAway day t).content f.path = [] := by
  rw [putAway, backups, FileTree.content,
    FileTree.get?_move_source inner (backup_ne_nil f day 1) (backup_ne_path inner).symm]

theorem file?_putAway_first (backups : f.backups = n + 1) (there : t.file? f.path = some bytes) :
    (f.putAway day t).file? (f.backup day 1) = some bytes := by
  have inner := FileTree.ne_nil_of_file? there
  have shifted : (f.shift day n t).file? f.path = some bytes := by
    rw [FileTree.file?_congr (get?_shift fun m _ _ => (backup_ne_path inner).symm), there]
  rw [putAway, backups]
  exact (FileTree.file?_move_target (backup_ne_nil f day 1) fun _ => by rw [shifted]; rfl).trans shifted

theorem file?_putAway_next {m : Nat} (backups : f.backups = n + 1) (inner : f.path ≠ []) (plain : IsDay day)
    (solid : ∀ m, 1 ≤ m → m ≤ n → (t.file? (f.backup day (m + 1))).isSome = true →
      (t.file? (f.backup day m)).isSome = true)
    (few : m < n) : (f.putAway day t).file? (f.backup day (m + 2)) = t.file? (f.backup day (m + 1)) := by
  have other : f.backup day (m + 2) ≠ f.backup day 1 := fun same => by simpa using (backup_injective plain plain same).2
  rw [putAway, backups,
    FileTree.file?_congr (FileTree.get?_move_of_ne inner (backup_ne_nil f day 1) (backup_ne_path inner) other)]
  exact file?_shift plain solid (Nat.succ_pos m) few

end PutAway

/-! ## Archives -/

/-- What stands in a log file, and in the files put away on each day, the newest first. -/
structure Archive where
  live : List UInt8
  kept : String → List (List UInt8)

namespace Archive

/-- Puts the log file away, and keeps only so many files of the day. -/
def putAway (backups : Nat) (day : String) (a : Archive) : Archive :=
  match backups with
  | 0 => a
  | n + 1 => ⟨[], Function.update a.kept day (a.live :: (a.kept day).take n)⟩

def isFull (f : LogFile) (a : Archive) (line : String) : Bool :=
  f.limit != 0 && f.limit ≤ a.live.length + line.length

def write (f : LogFile) (now : Time.Moment) (line : String) (a : Archive) : Archive :=
  let a := if a.isFull f line then a.putAway f.backups (dayOf now) else a
  { a with live := a.live ++ Text.Utf8.encode line }

def writeAll (f : LogFile) (lines : List (Time.Moment × String)) (a : Archive) : Archive :=
  lines.foldl (fun a entry => a.write f entry.1 entry.2) a

def turns (f : LogFile) (day : String) : List (Time.Moment × String) → Archive → Nat
  | [], _ => 0
  | (now, line) :: rest, a =>
    (if dayOf now = day ∧ a.isFull f line then 1 else 0) + turns f day rest (a.write f now line)

/-- What was written on a day and is kept, from the oldest file to the log file. -/
def text (a : Archive) (day : String) : List UInt8 := (a.kept day).reverse.flatten ++ a.live

/-- No more files than allowed are kept of a day. -/
def Within (backups : Nat) (a : Archive) : Prop := ∀ day, (a.kept day).length ≤ backups

variable {a : Archive} {backups : Nat} {line : String} {now : Time.Moment} {lines : List (Time.Moment × String)}

theorem kept_write : (a.write f now line).kept =
    (if a.isFull f line then a.putAway f.backups (dayOf now) else a).kept := rfl

/-! ### How many files are kept -/

theorem length_kept_putAway (within : a.Within backups) :
    ((a.putAway backups day).kept day').length =
      min ((a.kept day').length + if day = day' then 1 else 0) backups := by
  have few := within day'
  cases backups with
  | zero =>
      rw [putAway]
      omega
  | succ n =>
      rw [putAway]
      by_cases same : day' = day
      · subst same
        simp only [Function.update_self, if_true, List.length_cons, List.length_take]
        omega
      · simp only [Function.update_of_ne same, if_neg (Ne.symm same)]
        omega

theorem Within.putAway (within : a.Within backups) (day : String) : (a.putAway backups day).Within backups := by
  intro day'
  rw [length_kept_putAway within]
  exact Nat.min_le_right ..

theorem length_kept_write (within : a.Within f.backups) (now : Time.Moment) (line day : String) :
    ((a.write f now line).kept day).length =
      min ((a.kept day).length + if dayOf now = day ∧ a.isFull f line then 1 else 0) f.backups := by
  rw [kept_write]
  cases a.isFull f line with
  | true => simpa using length_kept_putAway within
  | false =>
      have few := within day
      simp [few]

theorem Within.write (within : a.Within f.backups) (now : Time.Moment) (line : String) :
    (a.write f now line).Within f.backups := by
  intro day
  rw [length_kept_write within now line day]
  exact Nat.min_le_right ..

/-- Of each day so many files are kept as the file was put away, but no more than allowed. -/
theorem length_kept_writeAll (within : a.Within f.backups) :
    ((a.writeAll f lines).kept day).length = min ((a.kept day).length + a.turns f day lines) f.backups := by
  induction lines generalizing a with
  | nil => exact (Nat.min_eq_left (within day)).symm
  | cons entry rest ih =>
      obtain ⟨now, line⟩ := entry
      have later := ih (within.write now line)
      rw [length_kept_write within now line day] at later
      rw [writeAll, List.foldl_cons]
      refine later.trans ?_
      rw [turns]
      omega

/-! ### What is kept -/

/-- What a full file gives way to is lost only if as many files are kept as allowed. -/
theorem text_putAway (a : Archive) (backups : Nat) (day : String) : ∃ lost,
    a.text day = lost ++ (a.putAway backups day).text day ∧ ((a.kept day).length < backups → lost = []) := by
  cases backups with
  | zero => exact ⟨[], rfl, fun _ => rfl⟩
  | succ n =>
      refine ⟨((a.kept day).drop n).reverse.flatten, ?_, fun few => ?_⟩
      · have parts := congrArg (fun files => files.reverse.flatten) (List.take_append_drop n (a.kept day))
        simp only [List.reverse_append, List.flatten_append] at parts
        rw [text, text, putAway, ← parts]
        simp
      · rw [List.drop_eq_nil_of_le (Nat.le_of_lt_succ few)]
        rfl

theorem text_write (a : Archive) (f : LogFile) (now : Time.Moment) (line : String) : ∃ lost,
    a.text (dayOf now) ++ Text.Utf8.encode line = lost ++ (a.write f now line).text (dayOf now) ∧
      ((a.kept (dayOf now)).length + (if a.isFull f line then 1 else 0) ≤ f.backups → lost = []) := by
  have appended (a : Archive) : a.text (dayOf now) ++ Text.Utf8.encode line =
      ({ a with live := a.live ++ Text.Utf8.encode line } : Archive).text (dayOf now) := List.append_assoc ..
  rw [write]
  cases a.isFull f line with
  | false => exact ⟨[], appended a, fun _ => rfl⟩
  | true =>
      obtain ⟨lost, parts, whole⟩ := text_putAway a f.backups (dayOf now)
      refine ⟨lost, ?_, whole⟩
      rw [parts, List.append_assoc, appended]
      rfl

/-- Of lines written on one day the last ones are kept, and all of them as long as the file is put away no more often
than files are allowed. -/
theorem text_writeAll (within : a.Within f.backups) (same : ∀ entry ∈ lines, dayOf entry.1 = day) : ∃ lost,
    a.text day ++ octets lines = lost ++ (a.writeAll f lines).text day ∧
      ((a.kept day).length + a.turns f day lines ≤ f.backups → lost = []) := by
  induction lines generalizing a with
  | nil => exact ⟨[], List.append_nil _, fun _ => rfl⟩
  | cons entry rest ih =>
      obtain ⟨now, line⟩ := entry
      obtain ⟨rfl, others⟩ := List.forall_mem_cons.1 same
      obtain ⟨lost, parts, whole⟩ := text_write a f now line
      obtain ⟨lost', parts', whole'⟩ := ih (within.write now line) others
      refine ⟨lost ++ lost', ?_, fun few => ?_⟩
      · calc
          _ = (a.text (dayOf now) ++ Text.Utf8.encode line) ++ octets rest := (List.append_assoc ..).symm
          _ = lost ++ ((a.write f now line).text (dayOf now) ++ octets rest) := by rw [parts, List.append_assoc]
          _ = _ := by rw [parts', List.append_assoc]; rfl
      · have length := length_kept_write within now line (dayOf now)
        rw [turns] at few
        simp only [true_and] at few length
        have many : ((a.write f now line).kept (dayOf now)).length + (a.write f now line).turns f (dayOf now) rest ≤
            f.backups := by omega
        rw [whole (by omega), whole' many]
        rfl

end Archive

/-! ## Trees that hold an archive -/

/-- The files of a tree are those of an archive. -/
structure Holds (f : LogFile) (a : Archive) (t : FileTree) : Prop where
  live : t.content f.path = a.live
  kept : ∀ day, IsDay day → ∀ n, t.file? (f.backup day (n + 1)) = (a.kept day)[n]?
  within : a.Within f.backups

namespace Holds

variable {a : Archive}

theorem isFull_eq (holds : f.Holds a t) (line : String) : f.isFull t line = a.isFull f line := by
  rw [isFull, Archive.isFull, holds.live]

/-- No number is left out. -/
theorem solid (holds : f.Holds a t) (plain : IsDay day) (number : Nat) (first : 1 ≤ number)
    (there : (t.file? (f.backup day (number + 1))).isSome = true) : (t.file? (f.backup day number)).isSome = true := by
  obtain ⟨n, rfl⟩ := Nat.exists_eq_add_of_le' first
  rw [holds.kept day plain, isSome_getElem?] at there ⊢
  exact Nat.lt_of_succ_lt there

/-- A file of a number that nothing is moved to stays. -/
theorem stays (holds : f.Holds a t) (inner : f.path ≠ []) (plain : IsDay day') {m : Nat}
    (other : ∀ number, 1 ≤ number → number ≤ f.backups → f.backup day' (m + 1) ≠ f.backup day number) :
    (f.putAway day t).file? (f.backup day' (m + 1)) = (a.kept day')[m]? := by
  have avoids := avoids_singleton inner (backup_ne_path inner) other
  rw [FileTree.file?_congr (avoids.get?_putAway (List.mem_singleton_self _)), holds.kept day' plain]

/-- The log file is the newest of the day then, and the oldest one is gone if there were as many as allowed. -/
theorem file?_putAway (holds : f.Holds a t) (there : t.file? f.path = some a.live) (plain : IsDay day) {n : Nat}
    (backups : f.backups = n + 1) (m : Nat) :
    (f.putAway day t).file? (f.backup day (m + 1)) = (a.live :: (a.kept day).take n)[m]? := by
  have inner := FileTree.ne_nil_of_file? there
  cases m with
  | zero => rw [file?_putAway_first backups there, List.getElem?_cons_zero]
  | succ m =>
      rw [List.getElem?_cons_succ]
      rcases Nat.lt_or_ge m n with few | many
      · rw [file?_putAway_next backups inner plain (fun m first _ => holds.solid plain m first) few,
          holds.kept day plain, List.getElem?_take_of_lt few]
      · have short := holds.within day
        have other (number : Nat) (_ : 1 ≤ number) (last : number ≤ f.backups) :
            f.backup day (m + 1 + 1) ≠ f.backup day number := by
          intro same
          obtain ⟨-, rfl⟩ := backup_injective plain plain same
          omega
        rw [holds.stays inner plain other, List.getElem?_eq_none (by omega),
          List.getElem?_eq_none (by rw [List.length_take]; omega)]

theorem putAway (holds : f.Holds a t) (there : (t.file? f.path).isSome = true) (plain : IsDay day) :
    f.Holds (a.putAway f.backups day) (f.putAway day t) := by
  obtain ⟨bytes, file⟩ := Option.isSome_iff_exists.1 there
  obtain rfl : bytes = a.live := by rw [← holds.live, FileTree.content_of_file? file]
  have inner := FileTree.ne_nil_of_file? file
  have within := holds.within.putAway day
  revert within
  cases backups : f.backups with
  | zero =>
      rw [LogFile.putAway, backups]
      exact fun _ => holds
  | succ n =>
      intro within
      refine ⟨content_putAway backups inner, fun day' plain' m => ?_, backups ▸ within⟩
      rw [Archive.putAway]
      by_cases same : day' = day
      · subst same
        simp only [Function.update_self]
        exact holds.file?_putAway file plain backups m
      · simp only [Function.update_of_ne same]
        exact holds.stays inner plain' fun number _ _ alike => same (backup_injective plain' plain alike).1

theorem append (holds : f.Holds a t) (inner : f.path ≠ []) (bytes : List UInt8) :
    f.Holds { a with live := a.live ++ bytes } (t.append f.path bytes) := by
  refine ⟨?_, fun day plain n => ?_, holds.within⟩
  · rw [FileTree.content_of_file? (FileTree.file?_append inner), holds.live]
  · rw [FileTree.file?_congr (FileTree.get?_append_of_ne inner (backup_ne_path inner)), holds.kept day plain]

theorem write (holds : f.Holds a t) (there : (t.file? f.path).isSome = true) (now : Time.Moment) (line : String) :
    f.Holds (a.write f now line) (f.write now line t) := by
  obtain ⟨bytes, file⟩ := Option.isSome_iff_exists.1 there
  rw [LogFile.write, Archive.write, holds.isFull_eq line]
  refine append ?_ (FileTree.ne_nil_of_file? file) _
  split
  · exact holds.putAway there (isDay_dayOf now)
  · exact holds

/-- Writing lines to a tree is writing them to its archive. -/
theorem writeAll (holds : f.Holds a t) (there : (t.file? f.path).isSome = true)
    (lines : List (Time.Moment × String)) :
    f.Holds (a.writeAll f lines) (f.writeAll lines t) ∧ ∀ day, f.turns day lines t = a.turns f day lines := by
  induction lines generalizing a t with
  | nil => exact ⟨holds, fun day => rfl⟩
  | cons entry rest ih =>
      obtain ⟨now, line⟩ := entry
      obtain ⟨bytes, file⟩ := Option.isSome_iff_exists.1 there
      have inner := FileTree.ne_nil_of_file? file
      obtain ⟨held, count⟩ := ih (holds.write there now line) (isSome_file?_write inner now line)
      refine ⟨held, fun day => ?_⟩
      rw [turns, Archive.turns, holds.isFull_eq line, count day]

end Holds

end Triage.LogFile
