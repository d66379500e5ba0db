import Triage.Text.Utf8

/-!
# Lines

Lines of a stored text end with a line feed, a carriage return, or both together; once read they all end
with a line feed.
-/

namespace Triage.Text

/-- Puts a line feed for every line break. -/
def unifyBreaks : List Char → List Char
  | [] => []
  | '\r' :: '\n' :: rest => '\n' :: unifyBreaks rest
  | '\r' :: rest => '\n' :: unifyBreaks rest
  | c :: rest => c :: unifyBreaks rest

/-- The lines of a text without their ends. -/
def lines (s : String) : List (List Char) := (unifyBreaks s.toList).splitOn '\n'

/-- A stored text with unified line breaks. -/
def ofStored (bytes : List UInt8) : Except Utf8.Fault String :=
  (Utf8.decode bytes).map fun s => String.ofList (unifyBreaks s.toList)

theorem unifyBreaks_eq_self {cs : List Char} (h : '\r' ∉ cs) : unifyBreaks cs = cs := by
  induction cs with
  | nil => rfl
  | cons c rest ih =>
    have other : c ≠ '\r' := fun same => h (by simp [same])
    have tail : '\r' ∉ rest := fun inside => h (by simp [inside])
    rw [unifyBreaks]
    · rw [ih tail]
    · intro rest' same
      simp_all
    · intro same
      simp_all

end Triage.Text
