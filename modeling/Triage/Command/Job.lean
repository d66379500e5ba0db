import Triage.Json.Reading
import Triage.Log
import Triage.Settings

/-!
# Jobs

A job is what a command does: it reads and changes files, adds to the output and the error output, and
leaves records in the log. It ends with an answer, or halts for a reason. What it did until then stays.
-/

namespace Triage

/-- What a program finds when it starts, apart from the files. -/
structure Surroundings where
  cwd : Path
  environment : Table String
  now : Time.Moment

/-- What a program has done so far. -/
structure Session where
  tree : FileTree
  log : Log
  out : String
  err : String

namespace Session

/-- The session before anything is done. -/
def initial (tree : FileTree) : Session := ⟨tree, .initial, "", ""⟩

end Session

/-- Why a job does not come to its end. -/
inductive Halt where
  /-- The command cannot be carried out, for a reason that the user is told. -/
  | refused (message : String)
  /-- The policy has defects; they have been printed. -/
  | rejected
  | notJson (problem : Json.Problem) (place : Json.Place)
  | fault (f : Fault)

structure Job (α : Type) where
  run : Surroundings → Session → Except Halt α × Session

namespace Job

variable {α β : Type}

instance : Monad Job where
  pure a := ⟨fun _ s => (.ok a, s)⟩
  bind x f := ⟨fun here s =>
    match x.run here s with
    | (.error halt, s) => (.error halt, s)
    | (.ok a, s) => (f a).run here s⟩

@[simp] theorem run_pure (a : α) (here : Surroundings) (s : Session) :
    (pure a : Job α).run here s = (.ok a, s) := rfl

theorem run_bind (x : Job α) (f : α → Job β) (here : Surroundings) (s : Session) :
    (x >>= f).run here s =
      match x.run here s with
      | (.error halt, s) => (.error halt, s)
      | (.ok a, s) => (f a).run here s := rfl

def halt (h : Halt) : Job α := ⟨fun _ s => (.error h, s)⟩

def fail (f : Fault) : Job α := halt (.fault f)

def refuse (message : String) : Job α := halt (.refused message)

/-- A fault in place of an answer halts the job. -/
def ofExcept : Except Fault α → Job α
  | .ok a => pure a
  | .error f => fail f

def surroundings : Job Surroundings := ⟨fun here s => (.ok here, s)⟩

def session : Job Session := ⟨fun _ s => (.ok s, s)⟩

def modify (f : Session → Session) : Job Unit := ⟨fun _ s => (.ok (), f s)⟩

/-! ## Output -/

def print (text : String) : Job Unit := modify fun s => { s with out := s.out ++ text }

def printLine (line : String) : Job Unit := print (line ++ "\n")

def printLines : List String → Job Unit
  | [] => pure ()
  | line :: rest => do
    printLine line
    printLines rest

/-! ## Records -/

/-- The session after a note went to the log. -/
def noted (here : Surroundings) (n : Note) (s : Session) : Session :=
  let effect := s.log.emit ⟨n.level.number, n.origin.name, n.text, here.now⟩ s.tree
  { s with tree := effect.tree, out := s.out ++ effect.out, err := s.err ++ effect.err }

def record (n : Note) : Job Unit := ⟨fun here s => (.ok (), noted here n s)⟩

/-- Leaves a note about the command itself. -/
def note (level : Level) (text : String) : Job Unit := record ⟨level, .command, text⟩

/-- Carries out an operation: its notes go to the log, then its answer is given. -/
def perform (r : Run α) : Job α :=
  ⟨fun here s => ((r.result.mapError Halt.fault), r.notes.foldl (fun s n => noted here n s) s)⟩

/-! ## Files -/

def hasFile (written : String) : Job Bool := do
  return (← session).tree.has (← surroundings).cwd written

/-- The text of the file at a written path. -/
def readText (written : String) : Job String := do
  let bytes ← ofExcept (((← session).tree.read (← surroundings).cwd written).mapError .access)
  ofExcept ((Text.ofStored bytes).mapError .decoding)

def writeText (written content : String) : Job Unit := do
  let tree ← ofExcept
    (((← session).tree.write (← surroundings).cwd written (Text.Utf8.encode content)).mapError .access)
  modify fun s => { s with tree }

/-- Makes the directory of a written path, with those above it. -/
def makeDirectories (written : String) : Job Unit := do
  let (tree, fault) := (← session).tree.makeDirectories (← surroundings).cwd written
  modify fun s => { s with tree }
  match fault with
  | some f => fail (.access f)
  | none => pure ()

end Job

end Triage
