import Mathlib.Data.List.InsertIdx
import Mathlib.Data.List.Sort
import Triage.Order

/-!
# Order

Sorting by a key makes the keys rise and leaves elements of one key in their order. Where no two elements agree
in the key it depends on the members of a list alone, as the first of the least elements does: a list of the same
members whose keys rise is what sorting gives, and its head is the least element. Sorting makes ranks rise that the
order respects, even where elements do not compare.
-/

namespace Triage.Order

variable {α β : Type}

section

variable [LinearOrder β] (key : α → β) {less : α → α → Bool} {xs ys : List α}

theorem not_less_iff (byKey : ∀ a b, less a b = true ↔ key a < key b) {a b : α} :
    (!less b a) = true ↔ key a ≤ key b := by
  rw [Bool.not_eq_true', ← Bool.not_eq_true, byKey, not_lt]

theorem not_less_trans (byKey : ∀ a b, less a b = true ↔ key a < key b) (a b c : α) :
    (!less b a) = true → (!less c b) = true → (!less c a) = true := by
  rw [not_less_iff key byKey, not_less_iff key byKey, not_less_iff key byKey]
  exact le_trans

theorem not_less_total (byKey : ∀ a b, less a b = true ↔ key a < key b) (a b : α) :
    (!less b a || !less a b) = true := by
  rw [Bool.or_eq_true, not_less_iff key byKey, not_less_iff key byKey]
  exact le_total (key a) (key b)

/-- The keys of a sorted list rise. -/
theorem pairwise_sort (byKey : ∀ a b, less a b = true ↔ key a < key b) (xs : List α) :
    (sort less xs).Pairwise fun a b => key a ≤ key b :=
  (List.pairwise_mergeSort (not_less_trans key byKey) (not_less_total key byKey) xs).imp (not_less_iff key byKey).1

/-- Elements with equal keys stay in their order. -/
theorem filter_sort (byKey : ∀ a b, less a b = true ↔ key a < key b) (k : β) (xs : List α) :
    (sort less xs).filter (key · = k) = xs.filter (key · = k) := by
  have level : (xs.filter (key · = k)).Pairwise fun a b => (!less b a) = true := by
    refine List.pairwise_of_forall_mem_list fun a first b second => (not_less_iff key byKey).2 ?_
    exact le_of_eq ((of_decide_eq_true (List.mem_filter.1 first).2).trans
      (of_decide_eq_true (List.mem_filter.1 second).2).symm)
  have kept : (xs.filter (key · = k)).Sublist (sort less xs) :=
    List.sublist_mergeSort (not_less_trans key byKey) (not_less_total key byKey) level List.filter_sublist
  have among : (xs.filter (key · = k)).Sublist ((sort less xs).filter (key · = k)) := by
    simpa using kept.filter (key · = k)
  exact (among.eq_of_length ((List.mergeSort_perm xs _).filter _).length_eq.symm).symm

/-- Sorting keeps the order in which elements of one key stand. -/
theorem pairwise_sort_of_pairwise {r : α → α → Prop} (byKey : ∀ a b, less a b = true ↔ key a < key b)
    (standing : xs.Pairwise r) : (sort less xs).Pairwise fun a b => key a < key b ∨ key a = key b ∧ r a b := by
  rw [List.pairwise_iff_forall_sublist]
  intro a b among
  have order : key a ≤ key b := List.pairwise_iff_forall_sublist.1 (pairwise_sort key byKey xs) among
  rcases order.lt_or_eq with before | level
  · exact .inl before
  · have kept : [a, b].Sublist (xs.filter (key · = key b)) := by
      rw [← filter_sort key byKey]
      simpa [level] using among.filter (key · = key b)
    exact .inr ⟨level, List.pairwise_iff_forall_sublist.1 standing (kept.trans List.filter_sublist)⟩

/-- Sorting by the order of a key gives the only arrangement in which the keys rise. -/
theorem sort_eq_of_perm (distinct : Function.Injective key) (byKey : ∀ a b, less a b = true ↔ key a < key b)
    (rising : ys.Pairwise fun a b => key a < key b) (same : xs.Perm ys) : sort less xs = ys := by
  refine List.Perm.eq_of_pairwise ?_ (pairwise_sort key byKey xs) (rising.imp le_of_lt)
    ((List.mergeSort_perm _ _).trans same)
  intro a b _ _ first second
  exact distinct (le_antisymm first second)

/-- Sorting by a key that tells all elements apart does not depend on the order in which they stand. -/
theorem sort_eq_sort_of_perm (distinct : Function.Injective key) (byKey : ∀ a b, less a b = true ↔ key a < key b)
    (same : xs.Perm ys) : sort less xs = sort less ys := by
  apply List.Perm.eq_of_pairwise _ (pairwise_sort key byKey xs) (pairwise_sort key byKey ys)
  · exact (List.mergeSort_perm xs _).trans (same.trans (List.mergeSort_perm ys _).symm)
  · intro a b _ _ first second
    exact distinct (le_antisymm first second)

/-! ## The first of the greatest elements -/

/-- An element that is greater than those before it and not less than those behind it. -/
def IsFirstGreatest (xs : List α) (a : α) : Prop :=
  ∃ before after, xs = before ++ a :: after ∧ (∀ b ∈ before, key b < key a) ∧ ∀ b ∈ after, key b ≤ key a

namespace IsFirstGreatest

variable {key} {a b : α}

theorem mem (first : IsFirstGreatest key xs a) : a ∈ xs := by
  rcases first with ⟨before, after, rfl, -, -⟩
  simp

theorem le (first : IsFirstGreatest key xs a) (member : b ∈ xs) : key b ≤ key a := by
  rcases first with ⟨before, after, rfl, less, most⟩
  rcases List.mem_append.1 member with early | late
  · exact (less b early).le
  · rcases List.mem_cons.1 late with rfl | behind
    · exact le_rfl
    · exact most b behind

/-- An element at the end that is not greater changes nothing. -/
theorem append_of_le (first : IsFirstGreatest key xs a) (least : key b ≤ key a) :
    IsFirstGreatest key (xs ++ [b]) a := by
  rcases first with ⟨before, after, rfl, less, most⟩
  refine ⟨before, after ++ [b], by simp, less, ?_⟩
  intro c member
  rcases List.mem_append.1 member with behind | last
  · exact most c behind
  · exact List.mem_singleton.1 last ▸ least

/-- An element at the end that is greater than all others takes their place. -/
theorem append_of_lt (greater : ∀ c ∈ xs, key c < key b) : IsFirstGreatest key (xs ++ [b]) b :=
  ⟨xs, [], rfl, greater, by simp⟩

/-- Leaving out other elements changes nothing. -/
theorem filter (first : IsFirstGreatest key xs a) {keep : α → Bool} (kept : keep a = true) :
    IsFirstGreatest key (xs.filter keep) a := by
  rcases first with ⟨before, after, rfl, less, most⟩
  refine ⟨before.filter keep, after.filter keep, by simp [kept], ?_, ?_⟩
  · exact fun c member => less c (List.mem_of_mem_filter member)
  · exact fun c member => most c (List.mem_of_mem_filter member)

/-- There is one only. -/
theorem unique (first : IsFirstGreatest key xs a) (second : IsFirstGreatest key xs b) : a = b := by
  have level : key a = key b := le_antisymm (second.le first.mem) (first.le second.mem)
  rcases first with ⟨before, after, rfl, less, most⟩
  rcases second with ⟨before', after', same, less', most'⟩
  rcases List.append_eq_append_iff.1 same with ⟨between, rfl, rest⟩ | ⟨between, rfl, rest⟩
  · cases between with
    | nil => simpa using (List.cons.inj rest).1
    | cons c between =>
        obtain ⟨rfl, -⟩ := List.cons.inj rest
        exact absurd level (less' a (by simp)).ne
  · cases between with
    | nil => simpa using (List.cons.inj rest).1.symm
    | cons c between =>
        obtain ⟨rfl, -⟩ := List.cons.inj rest
        exact absurd level (less b (by simp)).ne'

end IsFirstGreatest

end

/-! ## The least element -/

variable {rank : α → Nat}

theorem leastBy?_eq_none_iff {xs : List α} : leastBy? rank xs = none ↔ xs = [] := by
  cases xs with
  | nil => simp [leastBy?]
  | cons a rest =>
      rw [leastBy?]
      cases leastBy? rank rest with
      | none => simp
      | some b => simp only [reduceCtorEq, iff_false]; split <;> simp

theorem leastBy?_eq_some {xs : List α} {a : α} (found : leastBy? rank xs = some a) :
    a ∈ xs ∧ ∀ b ∈ xs, rank a ≤ rank b := by
  induction xs generalizing a with
  | nil => cases found
  | cons first rest ih =>
      rw [leastBy?] at found
      cases later : leastBy? rank rest with
      | none =>
          rw [later] at found
          cases found
          obtain rfl := leastBy?_eq_none_iff.1 later
          simp
      | some least =>
          obtain ⟨member, below⟩ := ih later
          rw [later] at found
          dsimp only at found
          split at found
          · rename_i before
            cases found
            refine ⟨List.mem_cons_of_mem _ member, List.forall_mem_cons.2 ⟨before.le, below⟩⟩
          · rename_i notBefore
            cases found
            refine ⟨List.mem_cons_self, List.forall_mem_cons.2 ⟨le_rfl, fun b among => ?_⟩⟩
            exact (not_lt.1 notBefore).trans (below b among)

/-- The least element heads every list of the same members whose ranks rise. -/
theorem leastBy?_eq_head? {xs ys : List α} (same : ∀ a, a ∈ xs ↔ a ∈ ys)
    (rising : ys.Pairwise fun a b => rank a < rank b) : leastBy? rank xs = ys.head? := by
  cases ys with
  | nil => exact leastBy?_eq_none_iff.2 (List.eq_nil_iff_forall_not_mem.2 fun a => by simp [same a])
  | cons head rest =>
      cases found : leastBy? rank xs with
      | none =>
          obtain rfl := leastBy?_eq_none_iff.1 found
          simpa using (same head).2 List.mem_cons_self
      | some least =>
          obtain ⟨member, below⟩ := leastBy?_eq_some found
          have bound := below head ((same head).2 List.mem_cons_self)
          obtain rfl | later := List.mem_cons.1 ((same least).1 member)
          · rfl
          · exact absurd ((List.pairwise_cons.1 rising).1 least later) (not_lt.2 bound)

/-! ## Elements that may not compare -/

section

variable {less : α → α → Bool} {falling : Bool} {previous a : α} {sorted : Array α} {xs : List α}

theorem frontRun_append_drop (xs : List α) (previous : α) :
    frontRun less falling previous xs ++ xs.drop (frontRun less falling previous xs).length = xs := by
  induction xs generalizing previous with
  | nil => rfl
  | cons b rest ih =>
      rw [frontRun]
      split
      · exact congrArg (b :: ·) (ih b)
      · rfl

theorem placeOf_le (fuel : ℕ) {low high : ℕ} (within : low ≤ high) : placeOf less sorted a fuel low high ≤ high := by
  induction fuel generalizing low high with
  | zero => exact within
  | succ fuel ih =>
      rw [placeOf]
      split
      · dsimp only
        split
        · split
          · exact (ih (by omega)).trans (by omega)
          · exact ih (by omega)
        · exact within
      · exact within

/-- Inserting elements into others gives all of them. -/
theorem insertAll_perm (xs : List α) (sorted : Array α) :
    (insertAll less sorted xs).toList.Perm (sorted.toList ++ xs) := by
  induction xs generalizing sorted with
  | nil => simp [insertAll]
  | cons a rest ih =>
      have place : placeOf less sorted a sorted.size 0 sorted.size ≤ sorted.size := placeOf_le _ (Nat.zero_le _)
      rw [insertAll]
      refine (ih _).trans ?_
      rw [Array.insertIdxIfInBounds, dif_pos place, Array.toList_insertIdx]
      exact ((List.perm_insertIdx a sorted.toList place).append_right rest).trans List.perm_middle.symm

/-- Sorting loses nothing, whether elements compare or not. -/
theorem sortLoosely_perm (less : α → α → Bool) (xs : List α) : (sortLoosely less xs).Perm xs := by
  unfold sortLoosely
  split
  · rename_i a b rest
    have front : (if less b a then (a :: frontRun less (less b a) a (b :: rest)).reverse
        else a :: frontRun less (less b a) a (b :: rest)).Perm (a :: frontRun less (less b a) a (b :: rest)) := by
      split
      · exact List.reverse_perm _
      · exact .refl _
    have whole : a :: frontRun less (less b a) a (b :: rest) ++
        (a :: b :: rest).drop (a :: frontRun less (less b a) a (b :: rest)).length = a :: b :: rest :=
      congrArg (a :: ·) (frontRun_append_drop (b :: rest) a)
    exact (insertAll_perm _ _).trans ((front.append_right _).trans (.of_eq whole))
  · exact .refl _

end

/-! ## Ranks -/

/-- Of two elements the one that comes before the other has no greater rank, whether or not the two compare. -/
structure Respects (less : α → α → Bool) (rank : α → ℕ) : Prop where
  before {a b : α} : less a b = true → rank a ≤ rank b
  notBefore {a b : α} : less a b = false → rank b ≤ rank a

/-- The elements before one place rank no higher than a given one, and those from another on no lower. -/
structure Brackets (rank : α → ℕ) (xs : List α) (a : α) (low high : ℕ) : Prop where
  front : ∀ b ∈ xs.take low, rank b ≤ rank a
  back : ∀ b ∈ xs.drop high, rank a ≤ rank b

namespace Respects

variable {less : α → α → Bool} {rank : α → ℕ} {xs ys : List α} {sorted : Array α} {a : α}

theorem pairwise_merge (respects : Respects less rank) (first : xs.Pairwise fun a b => rank a ≤ rank b)
    (second : ys.Pairwise fun a b => rank a ≤ rank b) :
    (xs.merge ys fun a b => !less b a).Pairwise fun a b => rank a ≤ rank b := by
  induction xs generalizing ys with
  | nil => simpa using second
  | cons a xs ih =>
      -- either head may come first, so the induction is on both lists
      induction ys with
      | nil => simpa using first
      | cons b ys ihy =>
          obtain ⟨low, rising⟩ := List.pairwise_cons.1 first
          obtain ⟨low', rising'⟩ := List.pairwise_cons.1 second
          rw [List.cons_merge_cons]
          split
          · rename_i leads
            have least : rank a ≤ rank b := respects.notBefore (by simpa using leads)
            refine List.pairwise_cons.2 ⟨fun c member => ?_, ih rising second⟩
            rcases List.mem_merge.1 member with among | among
            · exact low c among
            · rcases List.mem_cons.1 among with rfl | behind
              · exact least
              · exact least.trans (low' c behind)
          · rename_i leads
            have least : rank b ≤ rank a := respects.before (by simpa using leads)
            refine List.pairwise_cons.2 ⟨fun c member => ?_, ihy rising'⟩
            rcases List.mem_merge.1 member with among | among
            · rcases List.mem_cons.1 among with rfl | behind
              · exact least
              · exact least.trans (low c behind)
            · exact low' c among

/-- The ranks of a sorted list rise. -/
theorem pairwise_sort (respects : Respects less rank) (xs : List α) :
    (sort less xs).Pairwise fun a b => rank a ≤ rank b := by
  unfold sort
  generalize order : (fun a b => !less b a) = le
  induction xs, le using List.mergeSort.induct_unfolding with
  | case1 => exact .nil
  | case2 => exact List.pairwise_singleton _ _
  | case3 a b xs le halves _ _ first second =>
      subst order
      exact respects.pairwise_merge (first rfl) (second rfl)

/-- Any two elements of the run at the front are related as neighbours are. -/
theorem pairwise_frontRun {r : α → α → Prop} {falling : Bool} (trans : ∀ a b c, r a b → r b c → r a c)
    (step : ∀ a b, less b a = falling → r a b) (xs : List α) (a : α) :
    (a :: frontRun less falling a xs).Pairwise r := by
  induction xs generalizing a with
  | nil => exact List.pairwise_singleton _ _
  | cons b xs ih =>
      rw [frontRun]
      split
      · rename_i goesOn
        have next : r a b := step a b (beq_iff_eq.1 goesOn)
        refine List.pairwise_cons.2 ⟨fun c member => ?_, ih b⟩
        rcases List.mem_cons.1 member with rfl | behind
        · exact next
        · exact trans a b c next ((List.pairwise_cons.1 (ih b)).1 c behind)
      · exact List.pairwise_singleton _ _

/-- Halving ends between the lower ranks and the higher ones. -/
theorem brackets_placeOf (respects : Respects less rank)
    (rising : sorted.toList.Pairwise fun a b => rank a ≤ rank b) {fuel low high : ℕ} (enough : high - low ≤ fuel)
    (within : low ≤ high) (inside : high ≤ sorted.size) (brackets : Brackets rank sorted.toList a low high) :
    Brackets rank sorted.toList a (placeOf less sorted a fuel low high) (placeOf less sorted a fuel low high) := by
  induction fuel generalizing low high with
  | zero =>
      obtain rfl : low = high := by omega
      exact brackets
  | succ fuel ih =>
      unfold placeOf
      split
      · dsimp only
        generalize middle : low + (high - low) / 2 = place
        have among : place < sorted.toList.length := by simp; omega
        have read : sorted[place]? = some sorted.toList[place] := by simp
        have parts : sorted.toList.take place ++ sorted.toList[place] :: sorted.toList.drop (place + 1) =
            sorted.toList := by
          rw [List.getElem_cons_drop, List.take_append_drop]
        -- the list rises, so what the middle says holds of the whole half on its side
        obtain ⟨-, later, earlier⟩ := List.pairwise_append.1 (parts.symm ▸ rising)
        rw [read]
        dsimp only
        split
        · rename_i leads
          have least := respects.before leads
          refine ih (by omega) (by omega) (by omega) ⟨brackets.front, fun c member => ?_⟩
          rw [← List.getElem_cons_drop among] at member
          rcases List.mem_cons.1 member with rfl | behind
          · exact least
          · exact least.trans ((List.pairwise_cons.1 later).1 c behind)
        · rename_i leads
          have most := respects.notBefore (Bool.eq_false_iff.2 leads)
          refine ih (by omega) (by omega) (by omega) ⟨fun c member => ?_, brackets.back⟩
          rw [← List.take_append_getElem among] at member
          rcases List.mem_append.1 member with before | last
          · exact (earlier c before _ List.mem_cons_self).trans most
          · exact List.mem_singleton.1 last ▸ most
      · obtain rfl : low = high := by omega
        exact brackets

theorem pairwise_insertIdx {place : ℕ} (rising : xs.Pairwise fun a b => rank a ≤ rank b)
    (inside : place ≤ xs.length) (brackets : Brackets rank xs a place place) :
    (xs.insertIdx place a).Pairwise fun a b => rank a ≤ rank b := by
  obtain ⟨front, back, rfl, rfl, parts⟩ := List.exists_of_modifyTailIdx (List.cons a) inside
  have low : ∀ b ∈ front, rank b ≤ rank a := by simpa using brackets.front
  have high : ∀ b ∈ back, rank a ≤ rank b := by simpa using brackets.back
  obtain ⟨first, second, apart⟩ := List.pairwise_append.1 rising
  rw [List.insertIdx, parts]
  refine List.pairwise_append.2 ⟨first, List.pairwise_cons.2 ⟨high, second⟩, fun b before c member => ?_⟩
  rcases List.mem_cons.1 member with rfl | behind
  · exact low b before
  · exact apart b before c behind

theorem pairwise_insertAll (respects : Respects less rank) (xs : List α)
    (rising : sorted.toList.Pairwise fun a b => rank a ≤ rank b) :
    (insertAll less sorted xs).toList.Pairwise fun a b => rank a ≤ rank b := by
  induction xs generalizing sorted with
  | nil => exact rising
  | cons a rest ih =>
      have place : placeOf less sorted a sorted.size 0 sorted.size ≤ sorted.size := placeOf_le _ (Nat.zero_le _)
      have behind : sorted.toList.drop sorted.size = [] := List.drop_eq_nil_of_le le_rfl
      have whole : Brackets rank sorted.toList a 0 sorted.size := ⟨by simp, by simp [behind]⟩
      have brackets := respects.brackets_placeOf rising (Nat.sub_le _ 0) (Nat.zero_le _) le_rfl whole
      rw [insertAll]
      apply ih
      rw [Array.insertIdxIfInBounds, dif_pos place, Array.toList_insertIdx]
      exact pairwise_insertIdx rising place brackets

/-- The ranks rise even where elements do not compare. -/
theorem pairwise_sortLoosely (respects : Respects less rank) (xs : List α) :
    (sortLoosely less xs).Pairwise fun a b => rank a ≤ rank b := by
  unfold sortLoosely
  split
  · rename_i a b rest
    apply respects.pairwise_insertAll
    dsimp only
    cases falls : less b a with
    | true =>
        rw [if_pos rfl]
        refine List.pairwise_reverse.2 (pairwise_frontRun (r := fun a b => rank b ≤ rank a) ?_ ?_ (b :: rest) a)
        · exact fun _ _ _ first second => second.trans first
        · exact fun _ _ falls => respects.before falls
    | false =>
        rw [if_neg (by decide)]
        refine pairwise_frontRun (r := fun a b => rank a ≤ rank b) ?_ ?_ (b :: rest) a
        · exact fun _ _ _ first second => first.trans second
        · exact fun _ _ rises => respects.notBefore rises
  · rename_i few
    rcases xs with _ | ⟨a, _ | ⟨b, rest⟩⟩
    · exact .nil
    · exact List.pairwise_singleton _ _
    · exact absurd rfl (few a b rest)

end Respects

/-- Where ranks rise, what only low ranks have is had by a front of the list. -/
theorem filter_eq_takeWhile {xs : List α} (rising : xs.Pairwise fun a b => rank a ≤ rank b) {keep : α → Bool}
    (low : ∀ a b, rank a ≤ rank b → keep b = true → keep a = true) : xs.filter keep = xs.takeWhile keep := by
  induction xs with
  | nil => rfl
  | cons a rest ih =>
      obtain ⟨least, rising⟩ := List.pairwise_cons.1 rising
      by_cases kept : keep a = true
      · rw [List.filter_cons_of_pos kept, List.takeWhile_cons_of_pos kept, ih rising]
      · rw [List.takeWhile_cons_of_neg kept, List.filter_eq_nil_iff]
        intro b member also
        rcases List.mem_cons.1 member with rfl | behind
        · exact kept also
        · exact kept (low a b (least b behind) also)

end Triage.Order
