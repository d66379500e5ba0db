import Triage.Proofs.Policy.Document

/-!
# Colors of labels

A color that was read is what its document has for it, less one number sign in front. It has six hexadecimal digits,
and a line feed behind them just where one stands in the document.
-/

namespace Triage.Policy

/-- Six hexadecimal digits and nothing else. -/
def SixDigits (s : String) : Prop := s.length = 6 ∧ ∀ c ∈ s.toList, isHexDigit c = true

instance (s : String) : Decidable (SixDigits s) := inferInstanceAs (Decidable (_ ∧ _))

variable {s color written : String} {document : Data} {p : Policy}

theorem SixDigits.last (six : SixDigits s) : s.toList.getLast? ≠ some '\n' := by
  intro feed
  have digit := six.2 '\n' (List.mem_of_getLast? feed)
  cases digit

/-- A color has six digits, and one line feed behind them is let pass. -/
theorem isColor_iff : isColor s = true ↔ SixDigits s ∨ ∃ digits, SixDigits digits ∧ s = digits ++ "\n" := by
  have digits (cs : List Char) :
      (cs.length == 6 && cs.all isHexDigit) = true ↔ SixDigits (String.ofList cs) := by
    simp [SixDigits]
  unfold isColor
  dsimp only
  rw [digits]
  constructor
  · intro holds
    -- The check cuts off a line feed at the end before it looks at the digits.
    by_cases feed : s.toList.getLast? = some '\n'
    · rw [if_pos feed] at holds
      refine .inr ⟨_, holds, String.toList_injective ?_⟩
      rw [String.toList_append, String.toList_ofList]
      exact (List.dropLast_append_getLast? _ feed).symm
    · rw [if_neg feed, String.ofList_toList] at holds
      exact .inl holds
  · rintro (six | ⟨front, six, rfl⟩)
    · rw [if_neg six.last, String.ofList_toList]
      exact six
    · have last : (front ++ "\n").toList = front.toList ++ ['\n'] := String.toList_append
      rw [last, List.getLast?_concat, if_pos rfl, List.dropLast_concat, String.ofList_toList]
      exact six

/-- A number sign in front leaves the end of a color alone. -/
theorem sixDigits_iff (colored : isColor color = true) (same : written = color ∨ written = "#" ++ color) :
    SixDigits color ↔ written.toList.getLast? ≠ some '\n' := by
  have last : written.toList.getLast? = color.toList.getLast? := by
    rcases same with rfl | rfl
    · rfl
    · cases filled : color.toList with
      | nil =>
          rw [isColor, filled] at colored
          cases colored
      | cons c cs => rw [String.toList_append, filled, List.getLast?_append_of_ne_nil _ (List.cons_ne_nil c cs)]
  rw [last]
  constructor
  · exact SixDigits.last
  · intro plain
    rcases isColor_iff.1 colored with six | ⟨front, -, rfl⟩
    · exact six
    · rw [String.toList_append] at plain
      exact absurd List.getLast?_concat plain

/-- The color of a label is written in its entry of the document, with one number sign more at most. It has six
digits and nothing else, unless there is a line feed at its end in the document. -/
theorem colors_written (read : (ofData document).result = .ok p) (c : Category) :
    ∀ label ∈ (p.group c).labels.entries, ∃ entry ∈ (document.inside ["labels", c.name]).entries,
      entry.1 = .text label.1 ∧ ∃ written, entry.2.inside ["color"] = .text written ∧
        (written = label.2.color ∨ written = "#" ++ label.2.color) ∧
        (SixDigits label.2.color ∨ ∃ digits, SixDigits digits ∧ label.2.color = digits ++ "\n") ∧
        (SixDigits label.2.color ↔ written.toList.getLast? ≠ some '\n') := by
  intro label member
  have colored := ((wellFormed_of_ofData read).labels c label member).2.color
  obtain ⟨labels, taken, whole⟩ := labels_of_ofData read c
  rw [whole] at member
  obtain ⟨entry, among, named, source⟩ := exists_of_forall₂ taken (Table.mem_ofList member)
  obtain ⟨written, given, same⟩ := source.color
  exact ⟨entry, among, named, written, given, same, isColor_iff.1 colored, sixDigits_iff colored same⟩

theorem stocked_colors_written : ∃ p, (ofData stocked).result = .ok p ∧
    ∀ label ∈ (p.group .priority).labels.entries,
      ∃ entry ∈ (stocked.inside ["labels", "priority"]).entries, entry.1 = .text label.1 ∧
        ∃ written, entry.2.inside ["color"] = .text written ∧
          (written = label.2.color ∨ written = "#" ++ label.2.color) ∧
          (SixDigits label.2.color ∨ ∃ digits, SixDigits digits ∧ label.2.color = digits ++ "\n") ∧
          (SixDigits label.2.color ↔ written.toList.getLast? ≠ some '\n') := by
  obtain ⟨p, read⟩ := stocked_is_read
  exact ⟨p, read, colors_written read .priority⟩

/-- A document with a line feed behind a color. -/
def trailing : Data := .record [
  ("project", .record [("type", .text "backend")]),
  ("labels", .record [("type", .record [("bug", .record [("color", .text "#d73a4a\n")])])])]

/-- The line feed is kept in the policy. -/
theorem trailing_has_seven : ∃ p, (ofData trailing).result = .ok p ∧
    ∃ label ∈ (p.group .type).labels.entries, ¬ SixDigits label.2.color ∧ label.2.color.length = 7 := by
  have colors : (ofData trailing).result.map (fun p => (p.group .type).labels.entries) =
      .ok [("bug", ⟨"d73a4a\n", "", none⟩)] := by decide +kernel
  obtain ⟨p, read, whole⟩ := map_eq_ok_iff.1 colors
  refine ⟨p, read, ("bug", ⟨"d73a4a\n", "", none⟩), ?_, by decide, by decide⟩
  rw [whole]
  exact List.mem_singleton_self _

end Triage.Policy
