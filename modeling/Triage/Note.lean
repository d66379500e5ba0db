import Triage.Fault

/-!
# Notes

An operation leaves notes about what it did, in the order in which it did it, and ends with an answer or
a fault. The notes up to a fault are kept.
-/

namespace Triage

inductive Level where
  | debug
  | info
  | warning
  | error
  | critical
deriving Repr, DecidableEq, Inhabited

namespace Level

def all : List Level := [.debug, .info, .warning, .error, .critical]

def name : Level → String
  | .debug => "DEBUG"
  | .info => "INFO"
  | .warning => "WARNING"
  | .error => "ERROR"
  | .critical => "CRITICAL"

def number : Level → Int
  | .debug => 10
  | .info => 20
  | .warning => 30
  | .error => 40
  | .critical => 50

def ofName? (s : String) : Option Level := all.find? (·.name == s)

def ofNumber? (n : Int) : Option Level := all.find? (·.number == n)

/-- The name of a level by number; a number between the levels is its own name. -/
def nameOf (n : Int) : String :=
  if n = 0 then "NOTSET" else ((ofNumber? n).map name).getD s!"Level {n}"

theorem ofName?_name (l : Level) : ofName? l.name = some l := by cases l <;> rfl

end Level

/-- The parts of the program that leave notes. -/
inductive Origin where
  | policy
  | inference
  | sla
  | board
  | report
  | command
deriving Repr, DecidableEq

namespace Origin

def name : Origin → String
  | .policy => "issueflow.workflow_config"
  | .inference => "issueflow.inference"
  | .sla => "issueflow.sla"
  | .board => "issueflow.board_sync"
  | .report => "issueflow.report"
  | .command => "issueflow.cli"

end Origin

structure Note where
  level : Level
  origin : Origin
  text : String
deriving Repr, DecidableEq

/-- What an operation leaves behind. -/
structure Run (α : Type) where
  notes : List Note
  result : Except Fault α

namespace Run

variable {α β : Type}

instance : Monad Run where
  pure a := ⟨[], .ok a⟩
  bind x f :=
    match x.result with
    | .error fault => ⟨x.notes, .error fault⟩
    | .ok a =>
      let y := f a
      ⟨x.notes ++ y.notes, y.result⟩

def fail (fault : Fault) : Run α := ⟨[], .error fault⟩

def note (level : Level) (origin : Origin) (text : String) : Run Unit := ⟨[⟨level, origin, text⟩], .ok ()⟩

/-- An answer or a fault without any notes. -/
def ofExcept (x : Except Fault α) : Run α := ⟨[], x⟩

instance : MonadLift (Except Fault) Run := ⟨ofExcept⟩

@[simp] theorem result_pure (a : α) : (pure a : Run α).result = .ok a := rfl

@[simp] theorem notes_pure (a : α) : (pure a : Run α).notes = [] := rfl

@[simp] theorem result_ofExcept (x : Except Fault α) : (ofExcept x).result = x := rfl

@[simp] theorem result_liftM (x : Except Fault α) : (liftM x : Run α).result = x := rfl

@[simp] theorem result_note (level : Level) (origin : Origin) (text : String) :
    (note level origin text).result = .ok () := rfl

@[simp] theorem result_bind (x : Run α) (f : α → Run β) :
    (x >>= f).result = x.result >>= fun a => (f a).result := by
  show (match x.result with
    | .error fault => (⟨x.notes, .error fault⟩ : Run β)
    | .ok a => ⟨x.notes ++ (f a).notes, (f a).result⟩).result = _
  cases x.result <;> rfl

/-- An answer comes from the answer before it. -/
theorem result_bind_eq_ok {x : Run α} {f : α → Run β} {b : β} :
    (x >>= f).result = .ok b ↔ ∃ a, x.result = .ok a ∧ (f a).result = .ok b := by
  rw [result_bind]
  cases x.result with
  | error fault => simp [bind, Except.bind]
  | ok a => simp [bind, Except.bind]

end Run

theorem bind_eq_ok_iff {ε β γ : Type} {x : Except ε β} {f : β → Except ε γ} {c : γ} :
    (x >>= f) = .ok c ↔ ∃ b, x = .ok b ∧ f b = .ok c := by
  cases x <;> simp [bind, Except.bind]

theorem map_eq_ok_iff {ε β γ : Type} {f : β → γ} {x : Except ε β} {c : γ} :
    x.map f = .ok c ↔ ∃ b, x = .ok b ∧ f b = c := by
  cases x <;> simp [Except.map]

theorem exists_eq_ok_of_isOk {ε α : Type} {x : Except ε α} (done : x.isOk = true) : ∃ a, x = .ok a := by
  cases x with
  | error h => cases done
  | ok a => exact ⟨a, rfl⟩

theorem eq_ok_of_toOption {ε α : Type} {x : Except ε α} {a : α} (answer : x.toOption = some a) : x = .ok a := by
  cases x with
  | error h => cases answer
  | ok b => exact congrArg Except.ok (Option.some.inj answer)

end Triage
