/-!
# Ordered tables

A table sends texts to values and keeps its entries in the order in which their keys first came. Every
key stands once. Putting a value under a key that is already there replaces the value and leaves the
entry in its place.
-/

namespace Triage

/-- A table from texts to values, in order. -/
structure Table (α : Type) where
  entries : List (String × α)
  nodup : (entries.map Prod.fst).Nodup

namespace Table

variable {α β : Type}

theorem ext {first second : Table α} (h : first.entries = second.entries) : first = second := by
  cases first; cases second; simp_all

instance [DecidableEq α] : DecidableEq (Table α) := fun first second =>
  if h : first.entries = second.entries then .isTrue (ext h)
  else .isFalse fun same => h (congrArg entries same)

instance [BEq α] : BEq (Table α) := ⟨fun first second => first.entries == second.entries⟩

def empty : Table α := ⟨[], List.nodup_nil⟩

instance : EmptyCollection (Table α) := ⟨empty⟩

instance : Inhabited (Table α) := ⟨empty⟩

def keys (t : Table α) : List String := t.entries.map Prod.fst

def values (t : Table α) : List α := t.entries.map Prod.snd

def isEmpty (t : Table α) : Bool := t.entries.isEmpty

def get? (t : Table α) (key : String) : Option α := t.entries.lookup key

def contains (t : Table α) (key : String) : Bool := t.keys.contains key

/-- The place of a key among the keys. -/
def position (t : Table α) (key : String) : Nat := t.keys.idxOf key

/-- Replaces the value under a key, or adds the entry at the end. -/
def putEntry (key : String) (value : α) : List (String × α) → List (String × α)
  | [] => [(key, value)]
  | (k, v) :: rest => if k = key then (key, value) :: rest else (k, v) :: putEntry key value rest

theorem map_fst_putEntry (key : String) (value : α) (entries : List (String × α)) :
    (putEntry key value entries).map Prod.fst =
      if key ∈ entries.map Prod.fst then entries.map Prod.fst
      else entries.map Prod.fst ++ [key] := by
  induction entries with
  | nil => simp [putEntry]
  | cons entry rest ih =>
    obtain ⟨k, v⟩ := entry
    by_cases same : k = key
    · simp [putEntry, same]
    · have other : ¬ key = k := fun h => same h.symm
      simp only [putEntry, same, ite_false, List.map_cons, ih, List.mem_cons, other, false_or]
      split <;> simp

def put (t : Table α) (key : String) (value : α) : Table α where
  entries := putEntry key value t.entries
  nodup := by
    rw [map_fst_putEntry]
    split
    · exact t.nodup
    · rename_i absent
      refine List.nodup_append.2 ⟨t.nodup, by simp, ?_⟩
      intro a ha b hb same
      simp at hb
      exact absent (hb ▸ same ▸ ha)

theorem lookup_putEntry (key other : String) (value : α) (entries : List (String × α)) :
    (putEntry key value entries).lookup other =
      if other = key then some value else entries.lookup other := by
  induction entries with
  | nil =>
    by_cases same : other = key
    · simp [putEntry, same]
    · have apart : (other == key) = false := by simpa using same
      simp [putEntry, List.lookup_cons, same, apart]
  | cons entry rest ih =>
    obtain ⟨k, v⟩ := entry
    by_cases here : k = key
    · by_cases same : other = key
      · simp [putEntry, here, same]
      · have apart : (other == key) = false := by simpa using same
        simp [putEntry, List.lookup_cons, here, same, apart]
    · by_cases same : other = key
      · subst same
        have apart : (other == k) = false := by simp; exact fun h => here h.symm
        simp [putEntry, here, List.lookup_cons, apart, ih]
      · by_cases first : other = k
        · subst first; simp [putEntry, here]
        · have apart : (other == k) = false := by simpa using first
          simp [putEntry, here, List.lookup_cons, apart, ih, same]

@[simp] theorem get?_put (t : Table α) (key other : String) (value : α) :
    (t.put key value).get? other = if other = key then some value else t.get? other :=
  lookup_putEntry key other value t.entries

/-- Puts entries one after the other. -/
def ofList (entries : List (String × α)) : Table α :=
  entries.foldl (fun t entry => t.put entry.1 entry.2) empty

/-- Puts every entry of the second table into the first. -/
def update (first second : Table α) : Table α :=
  second.entries.foldl (fun t entry => t.put entry.1 entry.2) first

end Table

end Triage
