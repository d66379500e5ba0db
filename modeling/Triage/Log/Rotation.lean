import Triage.FileTree
import Triage.Text.Utf8
import Triage.Time.Moment

/-!
# Log files

A log file is kept below a size: before a line that would reach it the file is put away under the name of
the day with the number 1, and the files put away before move up by one number. Only so many of them are
kept; the one with the greatest number gives way. Numbers are counted for every day anew.
-/

namespace Triage

structure LogFile where
  path : Path
  /-- The size that the file stays below; zero stands for any size. -/
  limit : Nat
  /-- The greatest number of a file that is put away; with zero nothing is put away. -/
  backups : Nat
deriving Repr, DecidableEq

namespace LogFile

/-- The day of a moment in universal time, the year without leading zeros. -/
def dayOf (now : Time.Moment) : String :=
  let u := (Time.Moment.ofInstant now.instant).date
  String.ofList (Decimal.digits u.year ++ '-' :: Decimal.padded 2 u.month ++ '-' :: Decimal.padded 2 u.day)

/-- A name with the day in front of its extension, which is what follows the last dot. -/
def dated (day name : String) : String :=
  let reversed := name.toList.reverse
  if reversed.contains '.' then
    let extension := (reversed.takeWhile (· != '.')).reverse
    let stem := (reversed.dropWhile (· != '.')).tail.reverse
    String.ofList (stem ++ '.' :: day.toList ++ '.' :: extension)
  else name ++ "." ++ day

/-- The path of the log file with the day in its name and something at the end. -/
def datedPath (f : LogFile) (day ending : String) : Path :=
  f.path.dropLast ++ [dated day (f.path.getLastD "") ++ ending]

/-- The path under which the file is put away with a number. -/
def backup (f : LogFile) (day : String) (number : Nat) : Path := f.datedPath day ("." ++ toString number)

/-- Moves the files put away up by one number, from the greatest of so many numbers down. -/
def shift (f : LogFile) (day : String) : Nat → FileTree → FileTree
  | 0, t => t
  | n + 1, t => shift f day n (t.move (f.backup day (n + 1)) (f.backup day (n + 2)))

/-- Puts the log file away. -/
def putAway (f : LogFile) (day : String) (t : FileTree) : FileTree :=
  match f.backups with
  | 0 => t
  | n + 1 => (f.shift day n t).move f.path (f.backup day 1)

/-- The line does not fit any more: its characters and the octets of the file reach the limit. -/
def isFull (f : LogFile) (t : FileTree) (line : String) : Bool :=
  f.limit != 0 && f.limit ≤ (t.content f.path).length + line.length

/-- Writes a line to the log file, which is put away before if it is full. -/
def write (f : LogFile) (now : Time.Moment) (line : String) (t : FileTree) : FileTree :=
  let t := if f.isFull t line then f.putAway (dayOf now) t else t
  t.append f.path (Text.Utf8.encode line)

/-- Opens the log file at a written path: its directory is made if need be, and the file is there from
then on. -/
def open? (cwd : Path) (written : String) (limit backups : Nat) (t : FileTree) :
    FileTree × Except AccessFault LogFile :=
  let folder := Path.folder written
  let (t, fault) := if folder == "" then (t, none) else t.makeDirectories cwd folder
  match fault with
  | some f => (t, .error f)
  | none =>
    let path := Path.resolve cwd written
    match t.locate cwd path.text with
    | .error problem => (t, .error ⟨problem, path.text⟩)
    | .ok p =>
      match t.get? p with
      | some .directory => (t, .error ⟨.isDirectory, path.text⟩)
      | _ => (t.append p [], .ok ⟨p, limit, backups⟩)

end LogFile

end Triage
