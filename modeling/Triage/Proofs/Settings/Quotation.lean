import Triage.Proofs.Settings.File

/-!
# Marks of quotation

What is stored under a key of a settings file is what the last line with that key assigns to it. Two marks of quotation
around a value are taken off. A mark that stands alone both starts and ends its value, so it is taken off as if it were
two.
-/

namespace Triage

section

variable {α β : Type} {f : β → Option (String × α)} {key : String}

theorem lookup_filterMap (f : β → Option (String × α)) (xs : List β) (key : String) : (xs.filterMap f).lookup key =
    xs.findSome? fun x => (f x).bind fun entry => if key == entry.1 then some entry.2 else none := by
  induction xs with
  | nil => rfl
  | cons x rest ih =>
      cases given : f x with
      | none => simp [given, ih]
      | some entry =>
          rw [List.filterMap_cons_some given, List.lookup_cons, List.findSome?_cons, given, ih, Option.bind_some]
          cases key == entry.1 <;> rfl

/-- What is found from the end of a list is what the last element with the key gives. -/
theorem lookup_reverse_filterMap_iff {xs : List β} {a : α} : (xs.filterMap f).reverse.lookup key = some a ↔
    ∃ before x after, xs = before ++ x :: after ∧ f x = some (key, a) ∧
      ∀ y ∈ after, ∀ b, f y ≠ some (key, b) := by
  have fits (x : β) (a : α) : ((f x).bind fun entry => if key == entry.1 then some entry.2 else none) = some a ↔
      f x = some (key, a) := by
    simp only [Option.bind_eq_some_iff, Option.ite_none_right_eq_some, beq_iff_eq, Option.some.injEq, Prod.exists]
    grind
  have misses (x : β) : ((f x).bind fun entry => if key == entry.1 then some entry.2 else none) = none ↔
      ∀ b, f x ≠ some (key, b) := by
    simp only [Option.eq_none_iff_forall_ne_some, ne_eq, fits]
  rw [← List.filterMap_reverse, lookup_filterMap, List.findSome?_eq_some_iff]
  simp only [fits, misses]
  constructor
  · rintro ⟨later, x, earlier, whole, here, others⟩
    rw [List.reverse_eq_append_iff, List.reverse_cons, List.append_assoc, List.singleton_append] at whole
    exact ⟨earlier.reverse, x, later.reverse, whole, here, fun y member => others y (List.mem_reverse.1 member)⟩
  · rintro ⟨before, x, after, rfl, here, others⟩
    exact ⟨after.reverse, x, before.reverse, by simp, here, fun y member => others y (List.mem_reverse.1 member)⟩

end

namespace Settings

variable {line : List Char} {key stored : String} {value : List Char}

/-! ## What a line assigns -/

/-- A line assigns a value to a key: within its blanks there is an equals sign, and no comment begins before it. The
key stands before the first equals sign and the value behind it, both without the blanks around them. -/
inductive Assigns (line : List Char) : String → List Char → Prop
  | equals {before after : List Char} (whole : Text.trimBy Text.isBlank line = before ++ '=' :: after)
      (first : '=' ∉ before) (noComment : before.head? ≠ some '#') :
      Assigns line (String.ofList (Text.trimBy Text.isBlank before)) (Text.trimBy Text.isBlank after)

theorem entryOf?_of_not_mem (plain : '=' ∉ Text.trimBy Text.isBlank line) : entryOf? line = none := by
  simp [entryOf?, plain]

theorem Assigns.entryOf? (assigns : Assigns line key value) :
    entryOf? line = some (key, String.ofList (unquote value)) := by
  obtain ⟨whole, first, noComment⟩ := assigns
  rw [entryOf?_of_split whole first, if_neg noComment]

/-- A line has an entry where it assigns a value, which is then stored without marks of quotation. -/
theorem entryOf?_eq_some_iff : entryOf? line = some (key, stored) ↔
    ∃ value, Assigns line key value ∧ stored = String.ofList (unquote value) := by
  constructor
  · intro entry
    by_cases equals : '=' ∈ Text.trimBy Text.isBlank line
    · obtain ⟨before, after, whole, first⟩ := List.eq_append_cons_of_mem equals
      rw [entryOf?_of_split whole first] at entry
      split at entry
      · cases entry
      · rename_i noComment
        cases entry
        exact ⟨_, .equals whole first noComment, rfl⟩
    · rw [entryOf?_of_not_mem equals] at entry
      cases entry
  · rintro ⟨value, assigns, rfl⟩
    exact assigns.entryOf?

/-- A line assigns a single value. -/
theorem Assigns.value_eq (assigns : Assigns line key value) :
    value = Text.trimBy Text.isBlank ((Text.trimBy Text.isBlank line).dropWhile (· != '=')).tail := by
  obtain ⟨whole, first, -⟩ := assigns
  rw [whole, (split_at_equals first _).2]

/-! ## Marks around a value -/

/-- A mark that stands alone. -/
def IsLone (value : List Char) : Prop := ∃ mark, IsMark mark ∧ value = [mark]

/-- A value of two characters or more that starts and ends with the same mark. -/
def IsQuoted (value : List Char) : Prop :=
  2 ≤ value.length ∧ ∃ mark, IsMark mark ∧ value.head? = some mark ∧ value.getLast? = some mark

/-- Marks around a value are taken off, and any other value is kept. -/
structure Dequotes (value stored : List Char) : Prop where
  quoted : IsQuoted value → ∃ mark, IsMark mark ∧ value = mark :: (stored ++ [mark])
  plain : ¬ IsQuoted value → stored = value

/-- A value is quoted where it is some text between two marks. -/
theorem isQuoted_iff : IsQuoted value ↔ ∃ mark inner, IsMark mark ∧ value = mark :: (inner ++ [mark]) := by
  constructor
  · rintro ⟨long, mark, isMark, starts, ends⟩
    obtain ⟨rest, rfl⟩ := List.head?_eq_some_iff.1 starts
    obtain ⟨front, whole⟩ := List.getLast?_eq_some_iff.1 ends
    cases front with
    | nil => simp_all
    | cons first inner =>
        obtain ⟨rfl, rfl⟩ := List.cons.inj whole
        exact ⟨mark, inner, isMark, rfl⟩
  · rintro ⟨mark, inner, isMark, rfl⟩
    refine ⟨by simp, mark, isMark, rfl, ?_⟩
    rw [← List.cons_append, List.getLast?_concat]

theorem unquote_lone (lone : IsLone value) : unquote value = [] := by
  obtain ⟨mark, isMark, rfl⟩ := lone
  exact unquote_of_ends isMark rfl rfl

/-- A value that starts and ends with the same mark is the mark alone, or is quoted. -/
theorem unquote_plain (several : ¬ IsLone value) (plain : ¬ IsQuoted value) : unquote value = value := by
  have apart (mark : Char) (isMark : IsMark mark) : ¬ (value.head? = some mark ∧ value.getLast? = some mark) := by
    rintro ⟨starts, ends⟩
    obtain ⟨rest, rfl⟩ := List.head?_eq_some_iff.1 starts
    cases rest with
    | nil => exact several ⟨mark, isMark, rfl⟩
    | cons c rest => exact plain ⟨by simp, mark, isMark, starts, ends⟩
  have double := apart '"' (.inl rfl)
  have single := apart '\'' (.inr rfl)
  simp only [unquote, Bool.or_eq_true, Bool.and_eq_true, beq_iff_eq, double, single, or_self, if_false]

/-- Without a lone mark, what is stored is what the marks around it are taken off. -/
theorem unquote_eq_iff {stored : List Char} : stored = unquote value ↔
    IsLone value ∧ stored = [] ∨ ¬ IsLone value ∧ Dequotes value stored := by
  by_cases lone : IsLone value
  · simp [lone, unquote_lone lone]
  · simp only [lone, false_and, not_false_eq_true, true_and, false_or]
    by_cases quoted : IsQuoted value
    · obtain ⟨mark, inner, isMark, rfl⟩ := isQuoted_iff.1 quoted
      rw [unquote_quoted isMark]
      constructor
      · rintro rfl
        exact ⟨fun _ => ⟨mark, isMark, rfl⟩, fun plain => absurd quoted plain⟩
      · intro dequotes
        obtain ⟨mark', -, same⟩ := dequotes.quoted quoted
        obtain ⟨rfl, same⟩ := List.cons.inj same
        exact (List.append_cancel_right same).symm
    · rw [unquote_plain lone quoted]
      constructor
      · rintro rfl
        exact ⟨fun quoted' => absurd quoted' quoted, fun _ => rfl⟩
      · exact fun dequotes => dequotes.plain quoted

/-! ## What is stored -/

/-- What is stored under a key is what the last line with the key assigns to it: what stands between two marks where
the value is quoted, nothing where it is a mark alone, and the value as it is everywhere else. -/
theorem values_are_stored (text key stored : String) : (entries text).get? key = some stored ↔
    ∃ before line after value, Text.lines text = before ++ line :: after ∧ Assigns line key value ∧
      (∀ other ∈ after, ∀ value', ¬ Assigns other key value') ∧
      (IsLone value ∧ stored = "" ∨ ¬ IsLone value ∧ Dequotes value stored.toList) := by
  have fits (value : List Char) : stored = String.ofList (unquote value) ↔
      IsLone value ∧ stored = "" ∨ ¬ IsLone value ∧ Dequotes value stored.toList := by
    rw [← String.toList_inj, String.toList_ofList, unquote_eq_iff, String.toList_eq_nil_iff]
  have silent (line : List Char) : (∀ stored', entryOf? line ≠ some (key, stored')) ↔
      ∀ value, ¬ Assigns line key value := by
    simp only [ne_eq, entryOf?_eq_some_iff, not_exists, not_and]
    exact ⟨fun none value assigns => none _ value assigns rfl, fun none _ value assigns => absurd assigns (none value)⟩
  rw [entries, Table.get?_ofList, lookup_reverse_filterMap_iff]
  simp only [silent, entryOf?_eq_some_iff, fits]
  constructor
  · rintro ⟨before, line, after, whole, ⟨value, assigns, kept⟩, last⟩
    exact ⟨before, line, after, value, whole, assigns, last, kept⟩
  · rintro ⟨before, line, after, value, whole, assigns, last, kept⟩
    exact ⟨before, line, after, whole, ⟨value, assigns, kept⟩, last⟩

/-- A settings file that sets the level of the log to a mark. -/
def marked : String := "LOG_LEVEL=\"\n"

/-- The mark is lost, although it is no quotation. -/
theorem marked_is_lost : ¬ ∀ key stored, (entries marked).get? key = some stored →
    ∃ before line after value, Text.lines marked = before ++ line :: after ∧ Assigns line key value ∧
      (∀ other ∈ after, ∀ value', ¬ Assigns other key value') ∧ Dequotes value stored.toList := by
  intro claimed
  obtain ⟨before, line, after, value, whole, assigns, -, dequotes⟩ :=
    claimed "LOG_LEVEL" "" (by decide +kernel)
  have listed : Text.lines marked = ["LOG_LEVEL=\"".toList, []] := by decide +kernel
  have member : line ∈ Text.lines marked := by simp [whole]
  rw [listed, List.mem_cons, List.mem_singleton] at member
  rcases member with rfl | rfl
  · have given : value = ['"'] := assigns.value_eq.trans (by decide +kernel)
    have short : ¬ IsQuoted value := by
      rintro ⟨long, -⟩
      simp [given] at long
    exact absurd (given.symm.trans (dequotes.plain short).symm) (by decide)
  · cases assigns.entryOf?

end Settings

end Triage
