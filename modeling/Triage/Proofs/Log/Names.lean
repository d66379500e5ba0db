import Triage.Log.Rotation
import Triage.Proofs.Decimal.Spelled

/-!
# Names of files put away

The name under which a file is put away tells the day and the number, and is longer than the name of the log file.
-/

namespace Triage.LogFile

variable {f : LogFile} {day day' : String} {n n' : Nat}

/-- No dot is in a text that stands for a day. -/
def IsDay (day : String) : Prop := '.' ∉ day.toList

theorem isDay_dayOf (now : Time.Moment) : IsDay (dayOf now) := by
  have digit {c : Char} (digit : c.isDigit = true) : '.' ≠ c := by
    rintro rfl
    cases digit
  rw [IsDay, dayOf, String.toList_ofList]
  simp only [List.mem_append, List.mem_cons, not_or]
  refine ⟨⟨fun member => digit (Decimal.isDigit_of_mem_digits member) rfl, by decide, ?_⟩, by decide, ?_⟩
  · exact fun member => digit (Decimal.isDigit_of_mem_padded member) rfl
  · exact fun member => digit (Decimal.isDigit_of_mem_padded member) rfl

theorem IsDay.takeWhile_eq (plain : IsDay day) (rest : List Char) :
    (day.toList ++ '.' :: rest).takeWhile (· != '.') = day.toList := by
  have other : ∀ c ∈ day.toList, (c != '.') = true := fun c member => bne_iff_ne.2 fun same => plain (same ▸ member)
  rw [List.takeWhile_append_of_pos other, List.takeWhile_cons_of_neg (by decide), List.append_nil]

/-- A name with a dot is the text up to its last dot and the extension. -/
theorem exists_extension {name : List Char} (dotted : '.' ∈ name) :
    name = (name.reverse.dropWhile (· != '.')).tail.reverse ++ '.' :: (name.reverse.takeWhile (· != '.')).reverse := by
  have parts := List.takeWhile_append_dropWhile (p := (· != '.')) (l := name.reverse)
  cases rest : name.reverse.dropWhile (· != '.') with
  | nil =>
      have clear := List.dropWhile_eq_nil_iff.1 rest '.' (List.mem_reverse.2 dotted)
      cases clear
  | cons c others =>
      have dot : c = '.' := by
        have first := List.head?_dropWhile_not (· != '.') name.reverse
        rw [rest, List.head?_cons] at first
        simpa using first
      rw [rest, dot] at parts
      calc
        name = name.reverse.reverse := (List.reverse_reverse name).symm
        _ = (name.reverse.takeWhile (· != '.') ++ '.' :: others).reverse := by rw [parts]
        _ = _ := by simp

/-- The day and the number stand in a name at the same places always, with a dot behind the day. -/
theorem exists_dated (name : String) : ∃ front back : List Char,
    name.toList.length ≤ front.length + 1 + back.length ∧
      ∀ day n, (dated day name ++ ("." ++ toString n)).toList =
        front ++ '.' :: (day.toList ++ '.' :: (back ++ Decimal.digits n)) := by
  by_cases dotted : '.' ∈ name.toList
  · refine ⟨(name.toList.reverse.dropWhile (· != '.')).tail.reverse,
      (name.toList.reverse.takeWhile (· != '.')).reverse ++ ['.'], ?_, fun day n => ?_⟩
    · have length := congrArg List.length (exists_extension dotted)
      simp only [List.length_append, List.length_cons] at length ⊢
      omega
    · rw [dated, if_pos (by simpa using dotted)]
      simp [Decimal.digits]
  · refine ⟨name.toList, [], by omega, fun day n => ?_⟩
    rw [dated, if_neg (by simpa using dotted)]
    simp [Decimal.digits]

theorem path_eq (inner : f.path ≠ []) : f.path = f.path.dropLast ++ [f.path.getLastD ""] := by
  rw [List.getLastD_eq_getLast?, List.getLast?_eq_getLast_of_ne_nil inner, Option.getD_some,
    List.dropLast_append_getLast]

/-- The day and the number can be told from the name. -/
theorem backup_injective (plain : IsDay day) (plain' : IsDay day') (same : f.backup day n = f.backup day' n') :
    day = day' ∧ n = n' := by
  obtain ⟨front, back, -, spelled⟩ := exists_dated (f.path.getLastD "")
  have names := congrArg String.toList (List.singleton_injective (List.append_cancel_left same))
  rw [spelled, spelled, List.append_cancel_left_eq, List.cons_inj_right] at names
  have days : day.toList = day'.toList := by
    rw [← plain.takeWhile_eq, names, plain'.takeWhile_eq]
  rw [days, List.append_cancel_left_eq, List.cons_inj_right, List.append_cancel_left_eq] at names
  refine ⟨String.toList_injective days, ?_⟩
  rw [← Decimal.naturalOf_digits n, names, Decimal.naturalOf_digits]

/-- No file is put away under the name of the log file. -/
theorem backup_ne_path (inner : f.path ≠ []) : f.backup day n ≠ f.path := by
  obtain ⟨front, back, short, spelled⟩ := exists_dated (f.path.getLastD "")
  intro same
  rw [path_eq inner] at same
  have names := congrArg String.toList (List.singleton_injective (List.append_cancel_left same))
  have long := congrArg List.length names
  rw [spelled] at long
  simp only [List.length_append, List.length_cons] at long
  omega

end Triage.LogFile
