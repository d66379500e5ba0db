import Triage.Policy.Reading

/-!
# What reading ensures

A reader ensures a property when every value that it gives without problems has it. Properties pass from
the steps of a reader to the whole.
-/

namespace Triage

namespace Checked

variable {ε α β : Type} {P : α → Prop} {Q : β → Prop}

/-- Without problems, the value has the property. -/
def Ensures (x : Checked ε α) (P : α → Prop) : Prop := x.problems = [] → P x.value

namespace Ensures

theorem pure {a : α} (holds : P a) : (Pure.pure a : Checked ε α).Ensures P := fun _ => holds

/-- A problem leaves nothing to show. -/
theorem flawed {problem : ε} {a : α} : (Checked.flawed problem a).Ensures P := by
  intro clean
  cases clean

theorem bind {x : Checked ε α} {f : α → Checked ε β} (first : x.Ensures P)
    (later : ∀ a, P a → (f a).Ensures Q) : (x >>= f).Ensures Q := by
  intro clean
  obtain ⟨here, rest⟩ := List.append_eq_nil_iff.1 clean
  exact later x.value (first here) rest

/-- A step about whose value nothing needs to be known. -/
theorem skip {x : Checked ε α} {f : α → Checked ε β} (later : ∀ a, (f a).Ensures Q) :
    (x >>= f).Ensures Q :=
  bind (P := fun _ => True) (fun _ => trivial) fun a _ => later a

/-- An item in front of others. -/
theorem item {first : Checked ε (Option α)} {others : Checked ε (List α)}
    (here : first.Ensures fun found => ∀ a ∈ found, P a) (there : others.Ensures fun found => ∀ a ∈ found, P a) :
    Ensures (do
      let a ← first
      let rest ← others
      Pure.pure (a.toList ++ rest)) fun found => ∀ a ∈ found, P a := by
  refine bind here fun a known => bind there fun rest later => pure ?_
  intro b member
  obtain same | among := List.mem_append.1 member
  · exact known b (Option.mem_toList.1 same)
  · exact later b among

end Ensures

theorem collect_ensures {read : Nat → α → Checked ε (Option β)}
    (each : ∀ place a, (read place a).Ensures fun read => ∀ b ∈ read, Q b) (items : List α) (place : Nat) :
    (collect read place items).Ensures fun found => ∀ b ∈ found, Q b := by
  induction items generalizing place with
  | nil => exact .pure (by simp)
  | cons a rest ih => exact .item (each place a) (ih (place + 1))

end Checked

namespace Policy.Bounded

variable {α β : Type} {P : α → Prop} {Q : β → Prop}

/-- A value that is reached without problems has the property. -/
def Ensures (x : Bounded α) (P : α → Prop) : Prop :=
  Checked.Ensures x.run fun outcome => ∀ a, outcome = .ok a → P a

namespace Ensures

theorem pure {a : α} (holds : P a) : Ensures (Pure.pure a) P := by
  refine Checked.Ensures.pure ?_
  rintro _ ⟨rfl⟩
  exact holds

theorem throw {fault : Fault} : Ensures (MonadExcept.throw fault) P := by
  refine Checked.Ensures.pure ?_
  rintro _ ⟨⟩

theorem lift {x : Check α} (holds : x.Ensures P) : Ensures (liftM x) P := by
  intro clean a same
  cases same
  refine holds ?_
  simpa [liftM, monadLift, MonadLift.monadLift, ExceptT.lift, ExceptT.mk, ExceptT.run, Functor.map] using clean

theorem flawed {problem : Problem} {a : α} : Ensures (Bounded.flawed problem a) P :=
  lift .flawed

theorem bind {x : Bounded α} {f : α → Bounded β} (first : Ensures x P)
    (later : ∀ a, P a → Ensures (f a) Q) : Ensures (x >>= f) Q := by
  refine Checked.Ensures.bind first fun outcome known => ?_
  cases outcome with
  | error fault => exact .pure (by rintro _ ⟨⟩)
  | ok a => exact later a (known a rfl)

/-- A step about whose value nothing needs to be known. -/
theorem skip {x : Bounded α} {f : α → Bounded β} (later : ∀ a, Ensures (f a) Q) : Ensures (x >>= f) Q :=
  bind (P := fun _ => True) (fun _ _ _ => trivial) fun a _ => later a

/-- An item in front of others. -/
theorem item {first : Bounded (Option α)} {others : Bounded (List α)}
    (here : Ensures first fun found => ∀ a ∈ found, P a)
    (there : Ensures others fun found => ∀ a ∈ found, P a) :
    Ensures (do
      let a ← first
      let rest ← others
      Pure.pure (a.toList ++ rest)) fun found => ∀ a ∈ found, P a := by
  refine bind here fun a known => bind there fun rest later => pure ?_
  intro b member
  obtain same | among := List.mem_append.1 member
  · exact known b (Option.mem_toList.1 same)
  · exact later b among

end Ensures

/-! ## Steps -/

theorem run_pure (a : α) : (pure a : Bounded α).run = ⟨.ok a, []⟩ := rfl

theorem run_bind (x : Bounded α) (f : α → Bounded β) : (x >>= f).run =
    match x.run.value with
    | .ok a => ⟨(f a).run.value, x.run.problems ++ (f a).run.problems⟩
    | .error fault => ⟨.error fault, x.run.problems⟩ := by
  obtain ⟨outcome, problems⟩ := x
  cases outcome with
  | error fault =>
      show (⟨.error fault, problems ++ []⟩ : Check (Except Fault β)) = _
      rw [List.append_nil]
      rfl
  | ok a => rfl

end Policy.Bounded

end Triage
