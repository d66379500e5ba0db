import Triage.Path

/-!
# Names along paths

A written path starts somewhere and goes along its names. The path of some of its first names starts at the
same place and goes along these.
-/

namespace Triage.Path

/-- A text that can stand as a name between slashes. -/
def IsPlain (name : String) : Prop := isName name = true ∧ '/' ∉ name.toList

/-- The paths that are looked at along a written one, seen from a working directory. -/
def steps (cwd : Path) (written : String) : List Path := along (start cwd written) (names written)

/-! ## Names -/

theorem not_mem_of_mem_splitOn {cs piece : List Char} (member : piece ∈ cs.splitOn '/') : '/' ∉ piece := by
  induction cs generalizing piece with
  | nil =>
      rw [List.splitOn_nil, List.mem_singleton] at member
      rw [member]
      exact List.not_mem_nil
  | cons c rest ih =>
      rw [List.splitOn_cons_eq_if_modifyHead] at member
      split at member
      · rcases List.mem_cons.1 member with rfl | later
        · exact List.not_mem_nil
        · exact ih later
      · rename_i other
        cases pieces : rest.splitOn '/' with
        | nil => exact absurd pieces (List.splitOn_ne_nil _ _)
        | cons first others =>
            rw [pieces] at ih member
            rcases List.mem_cons.1 member with rfl | later
            · rw [List.mem_cons, not_or]
              exact ⟨fun same => other (beq_iff_eq.2 same.symm), ih (List.mem_cons_self ..)⟩
            · exact ih (List.mem_cons_of_mem _ later)

theorem plain_of_mem_names {name written : String} (member : name ∈ names written) : IsPlain name := by
  obtain ⟨among, named⟩ := List.mem_filter.1 member
  obtain ⟨piece, split, rfl⟩ := List.mem_map.1 among
  refine ⟨named, ?_⟩
  rw [String.toList_ofList]
  exact not_mem_of_mem_splitOn split

/-- The names in a list of characters. -/
def namesIn (cs : List Char) : List String := ((cs.splitOn '/').map String.ofList).filter isName

theorem namesIn_slash (cs : List Char) : namesIn ('/' :: cs) = namesIn cs := by
  rw [namesIn, List.splitOn_cons_eq_if_modifyHead, if_pos (by rfl), List.map_cons, List.filter_cons_of_neg (by decide)]
  rfl

theorem namesIn_slashes {slashes : List Char} (only : ∀ c ∈ slashes, c = '/') (cs : List Char) :
    namesIn (slashes ++ cs) = namesIn cs := by
  induction slashes with
  | nil => rfl
  | cons c rest ih =>
      obtain ⟨rfl, others⟩ := List.forall_mem_cons.1 only
      rw [List.cons_append, namesIn_slash, ih others]

theorem namesIn_intercalate {ns : List String} (plain : ∀ n ∈ ns, IsPlain n) :
    namesIn ("/".intercalate ns).toList = ns := by
  cases ns with
  | nil => rfl
  | cons first rest =>
      have apart : ∀ piece ∈ (first :: rest).map String.toList, '/' ∉ piece := by
        intro piece member
        obtain ⟨name, among, rfl⟩ := List.mem_map.1 member
        exact (plain name among).2
      have back : ((first :: rest).map String.toList).map String.ofList = first :: rest := by
        rw [List.map_map]
        exact (List.map_congr_left fun name _ => String.ofList_toList).trans (List.map_id _)
      rw [namesIn, String.toList_intercalate]
      change ((List.splitOn '/' (List.intercalate ['/'] _)).map String.ofList).filter isName = _
      rw [List.splitOn_intercalate '/' apart (by simp), back]
      exact List.filter_eq_self.2 fun name member => (plain name member).1

/-! ## Paths of the first names -/

/-- Nothing but slashes stands in front of the names. -/
theorem slashes_rootMark (written : String) : ∀ c ∈ (rootMark written).toList, c = '/' := by
  rw [rootMark]
  split <;> simp

theorem names_join {mark : String} (slashes : ∀ c ∈ mark.toList, c = '/') {ns : List String}
    (plain : ∀ n ∈ ns, IsPlain n) : names (join mark ns) = ns := by
  have whole : names (mark ++ "/".intercalate ns) = ns := by
    change namesIn (mark ++ "/".intercalate ns).toList = ns
    rw [String.toList_append, namesIn_slashes slashes, namesIn_intercalate plain]
  rw [join]
  split
  · rename_i blank
    rw [beq_iff_eq.1 blank] at whole
    rw [← whole]
    rfl
  · exact whole

theorem isRooted_iff {written : String} : isRooted written = true ↔ written.toList.head? = some '/' := by
  rw [isRooted, rootMark]
  split
  · rename_i same
    simp [same]
  · rename_i same
    simp [same]
  · rename_i same
    simp [same]
  · rename_i other
    cases chars : written.toList with
    | nil => simp
    | cons c rest =>
        have apart : c ≠ '/' := by
          rintro rfl
          exact other rest chars
        simp [apart]

theorem head?_intercalate {ns : List String} (plain : ∀ n ∈ ns, IsPlain n) :
    ("/".intercalate ns).toList.head? ≠ some '/' := by
  cases ns with
  | nil => simp
  | cons first rest =>
      obtain ⟨named, apart⟩ := plain first (List.mem_cons_self ..)
      have long : first.toList ≠ [] := by
        intro blank
        rw [String.toList_eq_nil_iff.1 blank] at named
        cases named
      obtain ⟨c, cs, chars⟩ := List.exists_cons_of_ne_nil long
      have leads : ("/".intercalate (first :: rest)).toList.head? = some c := by
        cases rest with
        | nil => rw [String.intercalate_singleton, chars, List.head?_cons]
        | cons second others => rw [String.intercalate_cons_cons, String.toList_append, String.toList_append, chars]; rfl
      rw [leads]
      rintro ⟨rfl⟩
      exact apart (chars ▸ List.mem_cons_self ..)

theorem isRooted_join {written : String} {ns : List String} (plain : ∀ n ∈ ns, IsPlain n) :
    isRooted (join (rootMark written) ns) = isRooted written := by
  rw [Bool.eq_iff_iff, isRooted_iff, join]
  cases marks : (rootMark written).toList with
  | nil =>
      have mark : rootMark written = "" := String.toList_eq_nil_iff.1 marks
      have loose : isRooted written = false := by rw [isRooted, mark]; rfl
      rw [mark, String.empty_append, loose]
      split
      · simp
      · simpa using head?_intercalate plain
  | cons c rest =>
      have slash : c = '/' := slashes_rootMark written c (marks ▸ List.mem_cons_self ..)
      have rooted : isRooted written = true := by
        rw [isRooted, bne_iff_ne]
        intro blank
        rw [blank] at marks
        cases marks
      have whole : (rootMark written ++ "/".intercalate ns).toList = '/' :: (rest ++ ("/".intercalate ns).toList) := by
        rw [String.toList_append, marks, slash, List.cons_append]
      rw [rooted]
      split
      · rename_i blank
        rw [beq_iff_eq.1 blank] at whole
        cases whole
      · rw [whole]
        simp

/-! ## Ways -/

theorem start_join (cwd : Path) {written : String} {ns : List String} (plain : ∀ n ∈ ns, IsPlain n) :
    start cwd (join (rootMark written) ns) = start cwd written := by
  rw [start, start, isRooted_join plain]

theorem along_prefix {here q : Path} {first : List String} (rest : List String) (member : q ∈ along here first) :
    q ∈ along here (first ++ rest) := by
  induction first generalizing here with
  | nil =>
      cases rest with
      | nil => exact member
      | cons name others =>
          rw [along, List.mem_singleton] at member
          rw [member]
          exact List.mem_cons_self ..
  | cons name others ih =>
      rcases List.mem_cons.1 member with rfl | later
      · exact List.mem_cons_self ..
      · exact List.mem_cons_of_mem _ (ih later)

theorem last_mem_along (here : Path) (ns : List String) : ns.foldl onward here ∈ along here ns := by
  induction ns generalizing here with
  | nil => exact List.mem_singleton_self _
  | cons name rest ih => exact List.mem_cons_of_mem _ (ih (onward here name))

/-- A written path leads to one of the paths that are looked at. -/
theorem resolve_mem_steps (cwd : Path) (written : String) : resolve cwd written ∈ steps cwd written :=
  last_mem_along _ _

/-- The path of some of the first names goes the same way, but not as far. -/
theorem steps_join_subset (cwd : Path) {written : String} {first rest : List String}
    (split : names written = first ++ rest) : steps cwd (join (rootMark written) first) ⊆ steps cwd written := by
  have plain : ∀ n ∈ first, IsPlain n := fun n member =>
    plain_of_mem_names (split ▸ List.mem_append_left rest member)
  intro q member
  rw [steps, start_join cwd plain, names_join (slashes_rootMark written) plain] at member
  rw [steps, split]
  exact along_prefix rest member

end Triage.Path
