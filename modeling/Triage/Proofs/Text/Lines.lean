import Mathlib.Data.List.Basic
import Triage.Text.Lines

/-!
# Lines of a text

A line feed ends a line, whatever comes before it. What is on both sides of it has lines of its own, unless a carriage
return before it is part of the same break.
-/

namespace Triage.Text

variable {cs : List Char} {text : String} {line : List Char}

theorem unifyBreaks_append (plain : '\r' ∉ cs) (rest : List Char) :
    unifyBreaks (cs ++ rest) = cs ++ unifyBreaks rest := by
  induction cs with
  | nil => rfl
  | cons c cs ih =>
      obtain ⟨here, later⟩ := List.ne_and_not_mem_of_not_mem_cons plain
      rw [List.cons_append, unifyBreaks, ih later, List.cons_append]
      · exact fun _ same => absurd same here.symm
      · exact fun same => absurd same here.symm

theorem getLast?_ne_of_cons {c d : Char} (last : (c :: cs).getLast? ≠ some d) : cs.getLast? ≠ some d := by
  intro ends
  rw [List.getLast?_cons, ends] at last
  exact last rfl

/-- What stands before a line feed is unified for itself, but a carriage return at its end goes with the feed. -/
theorem exists_unifyBreaks_feed (cs : List Char) : ∃ front,
    (∀ rest, unifyBreaks (cs ++ '\n' :: rest) = front ++ '\n' :: unifyBreaks rest) ∧
      (cs.getLast? ≠ some '\r' → front = unifyBreaks cs) := by
  fun_induction unifyBreaks cs with
  | case1 => exact ⟨[], fun rest => by simp [unifyBreaks], fun _ => rfl⟩
  | case2 cs ih =>
      obtain ⟨front, whole, same⟩ := ih
      refine ⟨'\n' :: front, fun rest => by simp [unifyBreaks, whole], fun last => ?_⟩
      rw [same (getLast?_ne_of_cons (getLast?_ne_of_cons last))]
  | case3 cs other ih =>
      cases cs with
      -- The feed belongs to the carriage return.
      | nil => exact ⟨[], fun rest => by simp [unifyBreaks], fun last => absurd rfl last⟩
      | cons c cs =>
          obtain ⟨front, whole, same⟩ := ih
          refine ⟨'\n' :: front, fun rest => ?_, fun last => by rw [same (getLast?_ne_of_cons last)]⟩
          rw [List.cons_append, unifyBreaks, whole, List.cons_append]
          rintro _ ⟨rfl, -⟩
          exact other _ rfl
  | case4 c cs noPair noReturn ih =>
      obtain ⟨front, whole, same⟩ := ih
      refine ⟨c :: front, fun rest => ?_, fun last => by rw [same (getLast?_ne_of_cons last)]⟩
      rw [List.cons_append, unifyBreaks, whole, List.cons_append]
      · exact fun _ same => absurd same noReturn
      · exact noReturn

theorem mem_unifyBreaks_of_mem (ends : '\n' ∈ cs ∨ '\r' ∈ cs) : '\n' ∈ unifyBreaks cs := by
  fun_induction unifyBreaks cs with
  | case1 => simp at ends
  | case2 cs ih => exact List.mem_cons_self
  | case3 cs other ih => exact List.mem_cons_self
  | case4 c cs noPair noReturn ih =>
      simp only [List.mem_cons, Ne.symm noReturn, false_or] at ends
      rw [List.mem_cons, or_iff_not_imp_left]
      intro other
      exact ih (ends.imp_left fun ends => ends.resolve_left other)

/-- A text is a single line where nothing in it ends one. -/
theorem lines_eq_singleton_iff : lines text = [line] ↔
    line = text.toList ∧ '\n' ∉ text.toList ∧ '\r' ∉ text.toList := by
  rw [lines]
  constructor
  · intro single
    have unbroken : '\n' ∉ unifyBreaks text.toList := by
      intro ends
      obtain ⟨before, after, split⟩ := List.append_of_mem ends
      rw [split, List.splitOn_append_cons_self] at single
      have size := congrArg List.length single
      have first := List.length_pos_of_ne_nil (List.splitOn_ne_nil '\n' before)
      have second := List.length_pos_of_ne_nil (List.splitOn_ne_nil '\n' after)
      rw [List.length_append, List.length_singleton] at size
      omega
    obtain ⟨feed, carriage⟩ := not_or.1 fun ends => unbroken (mem_unifyBreaks_of_mem ends)
    rw [unifyBreaks_eq_self carriage, List.splitOn_eq_singleton feed] at single
    exact ⟨(List.singleton_inj.1 single).symm, feed, carriage⟩
  · rintro ⟨rfl, feed, carriage⟩
    rw [unifyBreaks_eq_self carriage, List.splitOn_eq_singleton feed]

/-- The lines behind a line feed are lines of the whole, and so are those before it unless a carriage return is in
front of it. -/
theorem exists_lines_feed (text : String) : ∃ before,
    (∀ rest : String, lines (text ++ "\n" ++ rest) = before ++ lines rest) ∧
      (text.toList.getLast? ≠ some '\r' → before = lines text) := by
  obtain ⟨front, whole, same⟩ := exists_unifyBreaks_feed text.toList
  refine ⟨front.splitOn '\n', fun rest => ?_, fun last => by rw [same last, lines]⟩
  have listed : (text ++ "\n" ++ rest).toList = text.toList ++ '\n' :: rest.toList := by
    simp [String.toList_append]
  rw [lines, listed, whole, List.splitOn_append_cons_self, lines]

end Triage.Text
