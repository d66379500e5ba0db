import Triage.Yaml.Token.Stream

/-!
# Where a cursor stands

Reading moves a cursor on by a number of characters. How far it moves says what is left, and the
characters passed say on which line and in which column it stands.
-/

namespace Triage.Yaml

/-- Characters that keep to their line and take a column of it. -/
def isSteady (c : Char) : Bool := !isBreak c && c != '\uFEFF'

namespace Mark

theorem behind_steady {c : Char} (steady : isSteady c = true) (m : Mark) (next : Char) :
    m.behind c next = ⟨m.index + 1, m.line, m.column + 1⟩ := by
  simp only [isSteady, isBreak, Bool.and_eq_true, Bool.not_eq_true', Bool.or_eq_false_iff, bne_iff_ne, ne_eq,
    beq_eq_false_iff_ne] at steady
  obtain ⟨⟨⟨⟨⟨feed, return_⟩, nextLine⟩, line⟩, paragraph⟩, mark⟩ := steady
  simp [behind, feed, return_, nextLine, line, paragraph, mark]

theorem line_le_behind (m : Mark) (c next : Char) : m.line ≤ (m.behind c next).line := by
  unfold behind
  split
  · exact Nat.le_succ _
  · split <;> exact Nat.le_refl _

end Mark

namespace Cursor

theorem skip_add (c : Cursor) (a b : Nat) : c.skip (a + b) = (c.skip a).skip b := by
  induction a generalizing c with
  | zero => rw [Nat.zero_add, skip]
  | succ a ih =>
      rw [Nat.add_right_comm]
      exact ih c.next

theorem rest_next (c : Cursor) : c.next.rest = c.rest.tail := by
  obtain ⟨rest, mark⟩ := c
  cases rest <;> rfl

theorem rest_skip (c : Cursor) (n : Nat) : (c.skip n).rest = c.rest.drop n := by
  induction n generalizing c with
  | zero => rfl
  | succ n ih => rw [skip, ih, rest_next, List.drop_tail]

theorem skipWhile_eq (p : Char → Bool) (cs : List Char) (mark : Mark) :
    skipWhile p mark cs = (Cursor.mk cs mark).skip (cs.takeWhile p).length := by
  induction cs generalizing mark with
  | nil => rfl
  | cons x rest ih =>
      by_cases member : p x = true
      · rw [skipWhile, if_pos member, List.takeWhile_cons_of_pos member, ih]
        rfl
      · rw [skipWhile, if_neg member, List.takeWhile_cons_of_neg member]
        rfl

theorem line_le_skip (c : Cursor) (n : Nat) : c.mark.line ≤ (c.skip n).mark.line := by
  induction n generalizing c with
  | zero => exact Nat.le_refl _
  | succ n ih =>
      refine Nat.le_trans ?_ (ih c.next)
      obtain ⟨rest, mark⟩ := c
      cases rest with
      | nil => exact Nat.le_refl _
      | cons x rest => exact mark.line_le_behind x _

/-- Steady characters move the cursor along its line. -/
theorem mark_skip_steady {c : Cursor} {cs tail : List Char} (rest : c.rest = cs ++ tail)
    (steady : ∀ x ∈ cs, isSteady x = true) :
    (c.skip cs.length).mark = ⟨c.mark.index + cs.length, c.mark.line, c.mark.column + cs.length⟩ := by
  induction cs generalizing c with
  | nil => rfl
  | cons x cs ih =>
      obtain ⟨whole, mark⟩ := c
      cases rest
      have one := mark.behind_steady (steady x List.mem_cons_self) ((cs ++ tail).headD '\x00')
      have later := ih (c := ⟨cs ++ tail, mark.behind x ((cs ++ tail).headD '\x00')⟩) rfl fun y member =>
        steady y (List.mem_cons_of_mem _ member)
      rw [List.length_cons, skip]
      change ((Cursor.mk (cs ++ tail) (mark.behind x ((cs ++ tail).headD '\x00'))).skip cs.length).mark = _
      rw [later, one, Mark.mk.injEq]
      dsimp only
      refine ⟨?_, rfl, ?_⟩ <;> omega

theorem mark_skip_blanks {c : Cursor} {k : Nat} {tail : List Char} (rest : c.rest = List.replicate k ' ' ++ tail) :
    (c.skip k).mark = ⟨c.mark.index + k, c.mark.line, c.mark.column + k⟩ := by
  have blanks : ∀ x ∈ List.replicate k ' ', isSteady x = true := by
    intro x member
    obtain rfl := List.eq_of_mem_replicate member
    rfl
  have moved := mark_skip_steady rest blanks
  rwa [List.length_replicate] at moved

theorem rest_skip_blanks {c : Cursor} {k : Nat} {tail : List Char} (rest : c.rest = List.replicate k ' ' ++ tail) :
    (c.skip k).rest = tail := by
  rw [rest_skip, rest, List.drop_left' List.length_replicate]

theorem rest_skip_line {c : Cursor} {k : Nat} {tail : List Char}
    (rest : c.rest = '\n' :: List.replicate k ' ' ++ tail) : (c.skip (k + 1)).rest = tail := by
  rw [rest_skip, rest]
  exact List.drop_left' (by simp)

/-- Behind a line feed and blanks the column is the number of blanks. -/
theorem mark_skip_line {c : Cursor} {k : Nat} {tail : List Char}
    (rest : c.rest = '\n' :: List.replicate k ' ' ++ tail) :
    (c.skip (k + 1)).mark = ⟨c.mark.index + (k + 1), c.mark.line + 1, k⟩ := by
  obtain ⟨whole, mark⟩ := c
  cases rest
  have later := mark_skip_blanks (c := ⟨List.replicate k ' ' ++ tail, ⟨mark.index + 1, mark.line + 1, 0⟩⟩) rfl
  refine later.trans ?_
  rw [Mark.mk.injEq]
  dsimp only
  refine ⟨?_, rfl, ?_⟩ <;> omega

end Cursor

namespace Scan

@[simp] theorem run_peek (c : Cursor) : peek.run c = .ok (c.peek, c) := rfl

@[simp] theorem run_peekAt (k : Nat) (c : Cursor) : (peekAt k).run c = .ok (c.peekAt k, c) := rfl

@[simp] theorem run_forward (c : Cursor) : forward.run c = .ok ((), c.skip 1) := rfl

@[simp] theorem run_skip (n : Nat) (c : Cursor) : (skip n).run c = .ok ((), c.skip n) := rfl

@[simp] theorem run_left (c : Cursor) : left.run c = .ok (c.rest.length + 1, c) := rfl

@[simp] theorem run_get (c : Cursor) : (get : Scan Cursor).run c = .ok (c, c) := rfl

@[simp] theorem run_pure {α : Type} (a : α) (c : Cursor) : (pure a : Scan α).run c = .ok (a, c) := rfl

@[simp] theorem run_takeWhile (p : Char → Bool) (c : Cursor) :
    (takeWhile p).run c = .ok (c.rest.takeWhile p, c.skip (c.rest.takeWhile p).length) := by
  rw [← Cursor.skipWhile_eq p c.rest c.mark]
  rfl

@[simp] theorem run_skipWhile (p : Char → Bool) (c : Cursor) :
    (skipWhile p).run c = .ok ((), c.skip (c.rest.takeWhile p).length) := by
  rw [← Cursor.skipWhile_eq p c.rest c.mark]
  rfl

theorem run_bind_of_ok {α β : Type} {scan : Scan α} {f : α → Scan β} {c after : Cursor} {a : α}
    (first : scan.run c = .ok (a, after)) : (scan >>= f).run c = (f a).run after := by
  rw [StateT.run_bind, first]
  rfl

end Scan

end Triage.Yaml
