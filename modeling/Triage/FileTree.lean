import Triage.Path
import Triage.Text.Quoted

/-!
# File trees

A file tree holds directories and files, each file with its octets. Going along a written path needs a
directory at every step but the last, so a path can fail in the middle. What an operation does not name
it leaves alone.
-/

namespace Triage

inductive Entry where
  | directory
  | file (content : List UInt8)
deriving Repr, DecidableEq

/-- Why a path cannot be used. -/
inductive AccessProblem where
  | missing
  | present
  | notDirectory
  | isDirectory
  /-- A zero character is in the path. -/
  | zero
deriving Repr, DecidableEq

/-- A problem with the path as it was written. -/
structure AccessFault where
  problem : AccessProblem
  written : String
deriving Repr, DecidableEq

structure FileTree where
  entries : List (Path × Entry)

namespace FileTree

def empty : FileTree := ⟨[]⟩

/-- What is at a path; the root is always a directory. -/
def get? (t : FileTree) (p : Path) : Option Entry :=
  if p = [] then some .directory else t.entries.lookup p

def remove (t : FileTree) (p : Path) : FileTree := ⟨t.entries.filter fun e => e.1 != p⟩

def put (t : FileTree) (p : Path) (e : Entry) : FileTree := ⟨(p, e) :: (t.remove p).entries⟩

theorem lookup_filter_ne (p q : Path) (entries : List (Path × Entry)) :
    (entries.filter fun e => e.1 != p).lookup q = if q = p then none else entries.lookup q := by
  induction entries with
  | nil => simp
  | cons entry rest ih =>
    obtain ⟨k, e⟩ := entry
    by_cases same : k = p
    · subst same
      rw [List.filter_cons_of_neg (by simp), ih]
      by_cases here : q = k
      · simp [here]
      · have apart : (q == k) = false := by simpa using here
        simp [here, List.lookup_cons, apart]
    · have kept : (k != p) = true := by simpa using same
      rw [List.filter_cons_of_pos (by simpa using kept)]
      by_cases here : q = k
      · subst here
        simp [same]
      · have apart : (q == k) = false := by simpa using here
        simp [List.lookup_cons, apart, ih]

theorem get?_remove (t : FileTree) (p q : Path) (named : p ≠ []) :
    (t.remove p).get? q = if q = p then none else t.get? q := by
  by_cases root : q = []
  · subst root
    simp [get?, named.symm]
  · simp [get?, remove, root, lookup_filter_ne]

theorem get?_put (t : FileTree) (p q : Path) (e : Entry) (named : p ≠ []) :
    (t.put p e).get? q = if q = p then some e else t.get? q := by
  by_cases root : q = []
  · subst root
    simp [get?, named.symm]
  · by_cases same : q = p
    · simp [get?, put, same, named]
    · have apart : (q == p) = false := by simpa using same
      simp [get?, put, remove, root, same, List.lookup_cons, apart, lookup_filter_ne]

/-- The octets of a file, none if there is no file. -/
def content (t : FileTree) (p : Path) : List UInt8 :=
  match t.get? p with
  | some (.file bytes) => bytes
  | _ => []

/-- Adds octets to the end of a file, which is made if it is not there. -/
def append (t : FileTree) (p : Path) (bytes : List UInt8) : FileTree :=
  t.put p (.file (t.content p ++ bytes))

/-- Gives a file another path, in place of what is there. -/
def move (t : FileTree) (source target : Path) : FileTree :=
  match t.get? source with
  | some entry => (t.remove source).put target entry
  | none => t

/-! ## Written paths -/

/-- One step along a written path. -/
def step (t : FileTree) (here : Path) (piece : String) : Except AccessProblem Path :=
  match t.get? here with
  | none => .error .missing
  | some (.file _) => .error .notDirectory
  | some .directory => .ok (if Path.isName piece then Path.onward here piece else here)

/-- The path that a written one leads to; there need not be anything at its end. -/
def locate (t : FileTree) (cwd : Path) (written : String) : Except AccessProblem Path :=
  if written.toList.contains '\x00' then .error .zero
  else if written == "" then .error .missing
  else (Path.pieces written).foldlM t.step (Path.start cwd written)

/-- What a written path leads to. -/
def find (t : FileTree) (cwd : Path) (written : String) : Except AccessProblem (Path × Entry) := do
  let p ← t.locate cwd written
  match t.get? p with
  | some entry => return (p, entry)
  | none => throw .missing

def has (t : FileTree) (cwd : Path) (written : String) : Bool := (t.find cwd written).isOk

/-- The octets of the file at a written path. -/
def read (t : FileTree) (cwd : Path) (written : String) : Except AccessFault (List UInt8) :=
  match t.find cwd written with
  | .ok (_, .file bytes) => .ok bytes
  | .ok (_, .directory) => .error ⟨.isDirectory, written⟩
  | .error problem => .error ⟨problem, written⟩

/-- Sets the octets of the file at a written path. -/
def write (t : FileTree) (cwd : Path) (written : String) (bytes : List UInt8) :
    Except AccessFault FileTree :=
  match t.locate cwd written with
  | .error problem => .error ⟨problem, written⟩
  | .ok p => if t.get? p = some .directory then .error ⟨.isDirectory, written⟩ else .ok (t.put p (.file bytes))

/-- Makes one directory; it may be there already. -/
def makeDirectory (t : FileTree) (cwd : Path) (written : String) : FileTree × Option AccessFault :=
  match t.locate cwd written with
  | .error problem => (t, some ⟨problem, written⟩)
  | .ok p =>
    match t.get? p with
    | some .directory => (t, none)
    | some (.file _) => (t, some ⟨.present, written⟩)
    | none => (t.put p .directory, none)

/-- Makes the directory of some names, given from the last to the first, with those above it. -/
def makeUpTo (t : FileTree) (cwd : Path) (mark : String) : List String → FileTree × Option AccessFault
  | [] => (t, none)
  | name :: above =>
    let (made, fault) :=
      if t.has cwd (Path.join mark above.reverse) then (t, none) else makeUpTo t cwd mark above
    match fault with
    | some f => (made, some f)
    | none => made.makeDirectory cwd (Path.join mark (name :: above).reverse)

/-- Makes the directory of a written path with those above it that are not there yet. -/
def makeDirectories (t : FileTree) (cwd : Path) (written : String) : FileTree × Option AccessFault :=
  makeUpTo t cwd (Path.rootMark written) (Path.names written).reverse

end FileTree

namespace AccessFault

/-- The wording of the operating system. -/
def message (f : AccessFault) : String :=
  match f.problem with
  | .missing => "[Errno 2] No such file or directory: " ++ Text.quoted f.written
  | .present => "[Errno 17] File exists: " ++ Text.quoted f.written
  | .notDirectory => "[Errno 20] Not a directory: " ++ Text.quoted f.written
  | .isDirectory => "[Errno 21] Is a directory: " ++ Text.quoted f.written
  | .zero => "embedded null byte"

end AccessFault

end Triage
