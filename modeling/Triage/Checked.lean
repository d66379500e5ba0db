/-!
# Checked values

A checked value comes with the problems that were found while it was read. Reading goes on behind a
problem, so all of them are collected, in the order in which they were found.
-/

namespace Triage

structure Checked (ε α : Type) where
  value : α
  problems : List ε

namespace Checked

variable {ε α β : Type}

instance : Monad (Checked ε) where
  pure a := ⟨a, []⟩
  bind x f :=
    let y := f x.value
    ⟨y.value, x.problems ++ y.problems⟩

@[simp] theorem value_pure (a : α) : (pure a : Checked ε α).value = a := rfl

@[simp] theorem problems_pure (a : α) : (pure a : Checked ε α).problems = [] := rfl

@[simp] theorem value_bind (x : Checked ε α) (f : α → Checked ε β) :
    (x >>= f).value = (f x.value).value := rfl

@[simp] theorem problems_bind (x : Checked ε α) (f : α → Checked ε β) :
    (x >>= f).problems = x.problems ++ (f x.value).problems := rfl

theorem eq_pure_iff {x : Checked ε α} {a : α} : x = pure a ↔ x.value = a ∧ x.problems = [] := by
  cases x
  exact Eq.to_iff (Checked.mk.injEq ..)

instance : LawfulMonad (Checked ε) :=
  .mk' _ (fun x => by simp [Functor.map]) (fun _ _ => rfl) fun x f g => by simp [bind]

/-- Notes a problem and goes on with a value. -/
def flawed (problem : ε) (value : α) : Checked ε α := ⟨value, [problem]⟩

/-- Reads the entries of a list with their places; entries without a value are left out. -/
def collect (read : Nat → α → Checked ε (Option β)) : Nat → List α → Checked ε (List β)
  | _, [] => pure []
  | place, a :: rest => do
    let first ← read place a
    let others ← collect read (place + 1) rest
    return first.toList ++ others

end Checked

end Triage
