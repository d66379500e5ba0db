import Mathlib.Algebra.BigOperators.Group.List.Basic
import Mathlib.Data.List.Induction
import Mathlib.Data.Prod.Lex
import Mathlib.Data.String.Basic
import Triage.Proofs.Audit.Warnings
import Triage.Proofs.Order
import Triage.Report

/-!
# Counts

A table of counts holds every key that occurs, with the number of its occurrences, and these sum up to the number of
all. The order in which the keys come makes no difference to what the table holds, nor to its rows.
-/

namespace Triage

namespace Table

/-- Tables that hold the same have the same entries. -/
theorem perm_entries {α : Type} {first second : Table α} (same : ∀ key, first.get? key = second.get? key) :
    first.entries.Perm second.entries := by
  apply (List.perm_ext_iff_of_nodup first.nodup.of_map second.nodup.of_map).2
  rintro ⟨key, value⟩
  rw [← get?_eq_some_iff, ← get?_eq_some_iff, same]

end Table

namespace Report

theorem count_append_singleton (keys : List String) (key : String) :
    count (keys ++ [key]) = (count keys).put key (countOf (count keys) key + 1) := by
  rw [count, List.foldl_append]
  rfl

/-- A key is stored with the number of its occurrences, if it occurs. -/
theorem get?_count (keys : List String) (key : String) :
    (count keys).get? key = if keys.count key = 0 then none else some (keys.count key) := by
  induction keys using List.reverseRecOn generalizing key with
  | nil => rfl
  | append_singleton keys last ih =>
      have before : countOf (count keys) last = keys.count last := by
        rw [countOf, ih]
        split
        · rename_i none
          exact none.symm
        · rfl
      rw [count_append_singleton, Table.get?_put, before, ih]
      by_cases same : key = last
      · simp [same]
      · simp [same, List.count_append, Ne.symm same]

theorem sum_putEntry (key : String) (entries : List (String × ℕ)) :
    ((Table.putEntry key ((entries.lookup key).getD 0 + 1) entries).map Prod.snd).sum =
      (entries.map Prod.snd).sum + 1 := by
  induction entries with
  | nil => rfl
  | cons entry rest ih =>
      obtain ⟨k, n⟩ := entry
      by_cases same : k = key
      · simp [Table.putEntry, same]
        omega
      · have apart : (key == k) = false := beq_eq_false_iff_ne.2 (Ne.symm same)
        simp only [Table.putEntry, same, if_false, List.lookup_cons, apart, List.map_cons, List.sum_cons, ih]
        omega

/-- The counts sum up to the number of keys. -/
theorem sum_values_count (keys : List String) : (count keys).values.sum = keys.length := by
  induction keys using List.reverseRecOn with
  | nil => rfl
  | append_singleton keys last ih =>
      rw [count_append_singleton, List.length_append, ← ih]
      exact sum_putEntry last (count keys).entries

/-- The order of the keys does not count. -/
theorem get?_count_of_perm {keys others : List String} (same : keys.Perm others) (key : String) :
    (count keys).get? key = (count others).get? key := by
  rw [get?_count, get?_count, same.count_eq]

/-- A table counts some elements by the key of each: what is stored under a key is how many there are, more than
none, and all stored counts together are the number of elements. -/
structure Tallies {α : Type} (key : α → String) (xs : List α) (counts : Table ℕ) : Prop where
  stored : ∀ k n, counts.get? k = some n ↔ n = xs.countP (fun x => key x = k) ∧ 0 < n
  total : counts.values.sum = xs.length

theorem tallies_count {α : Type} (key : α → String) (xs : List α) : Tallies key xs (count (xs.map key)) := by
  refine ⟨fun k n => ?_, by rw [sum_values_count, List.length_map]⟩
  have occurs : (xs.map key).count k = xs.countP fun x => key x = k := by
    rw [List.count_eq_countP, List.countP_map]
    rfl
  rw [get?_count, occurs]
  split
  · rename_i none
    rw [none]
    refine iff_of_false (by simp) ?_
    rintro ⟨rfl, some⟩
    exact lt_irrefl 0 some
  · rename_i some
    rw [Option.some.injEq]
    constructor
    · rintro rfl
      exact ⟨rfl, Nat.pos_of_ne_zero some⟩
    · exact fun stored => stored.1.symm

/-! ## Rows -/

/-- The place of a row: the count comes first, the largest before all others, and the name next. -/
def rowKey (row : String × ℕ) : ℕᵒᵈ ×ₗ String := toLex (OrderDual.toDual row.2, row.1)

/-- Tables that hold the same are written in the same rows. -/
theorem rows_eq {first second : Table ℕ} (same : ∀ key, first.get? key = second.get? key) :
    rows first = rows second := by
  have byKey (a b : String × ℕ) :
      (decide (b.2 < a.2) || (a.2 == b.2 && decide (a.1 < b.1))) = true ↔ rowKey a < rowKey b := by
    simp [rowKey, Prod.Lex.toLex_lt_toLex]
  have distinct : Function.Injective rowKey := by
    rintro ⟨a, m⟩ ⟨b, n⟩ equal
    obtain ⟨counts, names⟩ := Prod.mk.inj (toLex.injective equal)
    exact Prod.ext names (OrderDual.toDual.injective counts)
  exact Order.sort_eq_sort_of_perm rowKey distinct byKey (Table.perm_entries same)

end Report

end Triage
