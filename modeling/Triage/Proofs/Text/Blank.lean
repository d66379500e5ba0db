import Mathlib.Data.List.TakeWhile
import Triage.Text.Blank

/-!
# Stripped texts

Stripping leaves nothing of a text of blanks, and leaves a text as it is if and only if no blank stands at its ends.
-/

namespace Triage.Text

variable {drop : Char → Bool} {c : Char} {cs : List Char} {s : String}

theorem trimBy_prefix_dropWhile (drop : Char → Bool) (cs : List Char) : trimBy drop cs <+: cs.dropWhile drop := by
  rw [trimBy, ← List.reverse_suffix, List.reverse_reverse]
  exact List.dropWhile_suffix drop

theorem mem_of_mem_trimBy (member : c ∈ trimBy drop cs) : c ∈ cs :=
  (List.dropWhile_suffix drop).subset ((trimBy_prefix_dropWhile drop cs).subset member)

theorem trimBy_eq_nil_iff : trimBy drop cs = [] ↔ ∀ c ∈ cs, drop c = true := by
  rw [trimBy, List.reverse_eq_nil_iff, List.dropWhile_eq_nil_iff]
  simp only [List.mem_reverse]
  constructor
  · intro dropped
    by_contra kept
    have some : cs.dropWhile drop ≠ [] := mt List.dropWhile_eq_nil_iff.1 kept
    have stays := List.head_dropWhile_not drop some
    rw [dropped _ (List.head_mem some)] at stays
    cases stays
  · exact fun all c member => all c ((List.dropWhile_suffix drop).subset member)

/-- The first character that is kept is the first one that is not to be dropped. -/
theorem head?_trimBy (drop : Char → Bool) (cs : List Char) : (trimBy drop cs).head? = (cs.dropWhile drop).head? := by
  obtain ⟨behind, whole⟩ := trimBy_prefix_dropWhile drop cs
  cases kept : trimBy drop cs with
  | nil => rw [List.dropWhile_eq_nil_iff.2 (trimBy_eq_nil_iff.1 kept)]
  | cons c rest => rw [← whole, kept, List.cons_append, List.head?_cons, List.head?_cons]

theorem dropWhile_eq_self_iff : cs.dropWhile drop = cs ↔ ∀ c ∈ cs.head?, drop c = false := by
  cases cs with
  | nil => simp
  | cons c rest =>
      cases dropped : drop c with
      | false => simp [dropped]
      | true =>
          have shorter := (List.dropWhile_suffix drop (l := rest)).length_le
          have apart : rest.dropWhile drop ≠ c :: rest := by
            intro same
            rw [same, List.length_cons] at shorter
            omega
          simpa [dropped] using apart

/-- Nothing is dropped exactly if neither the first nor the last character is to be dropped. -/
theorem trimBy_eq_self_iff :
    trimBy drop cs = cs ↔ (∀ c ∈ cs.head?, drop c = false) ∧ ∀ c ∈ cs.getLast?, drop c = false := by
  rw [← dropWhile_eq_self_iff, ← List.head?_reverse, ← dropWhile_eq_self_iff]
  constructor
  · intro whole
    have front : cs.dropWhile drop = cs := by
      have shorter := (trimBy_prefix_dropWhile drop cs).length_le
      rw [whole] at shorter
      exact (List.dropWhile_suffix drop).eq_of_length_le shorter
    refine ⟨front, ?_⟩
    rw [trimBy, front] at whole
    rw [← List.reverse_inj, List.reverse_reverse, whole]
  · rintro ⟨front, back⟩
    rw [trimBy, front, back, List.reverse_reverse]

theorem strip_eq_empty_iff : strip s = "" ↔ isBlankText s = true := by
  rw [strip, isBlankText, List.all_eq_true, ← trimBy_eq_nil_iff, ← String.toList_inj, String.toList_ofList]
  rfl

theorem strip_eq_self_iff : strip s = s ↔ trimBy isBlank s.toList = s.toList := by
  rw [← String.toList_inj, strip, String.toList_ofList]

end Triage.Text
