import Triage.FileTree
import Triage.Proofs.Path

/-!
# Trees that are alike

Two trees can differ in some files only. Operations that do not look at these files give the same answers and
leave trees that differ in no others. A way along a written path that is open in one of the trees is open in
the other one, since it leads through directories only.
-/

namespace Triage.FileTree

variable {t t' : FileTree} {files : List Path} {cwd p : Path} {written : String}

theorem find_eq_ok_iff {e : Entry} :
    t.find cwd written = .ok (p, e) ↔ t.locate cwd written = .ok p ∧ t.get? p = some e := by
  rw [find]
  cases t.locate cwd written with
  | error problem => simp [bind, Except.bind]
  | ok q =>
      cases found : t.get? q with
      | none =>
          simp only [bind, Except.bind, found, Except.ok.injEq]
          constructor
          · intro answer
            cases answer
          · rintro ⟨rfl, there⟩
            rw [found] at there
            cases there
      | some there =>
          simp only [bind, Except.bind, found, pure, Except.pure, Except.ok.injEq, Prod.mk.injEq]
          constructor
          · rintro ⟨rfl, rfl⟩
            exact ⟨rfl, found⟩
          · rintro ⟨rfl, kept⟩
            exact ⟨rfl, Option.some.inj (found.symm.trans kept)⟩

/-! ## Ways along written paths -/

theorem eq_of_foldlM_step {pieces : List String} {here : Path} (reached : pieces.foldlM t.step here = .ok p) :
    p = (pieces.filter Path.isName).foldl Path.onward here := by
  induction pieces generalizing here with
  | nil => exact (Except.ok.inj reached).symm
  | cons piece rest ih =>
      rw [List.foldlM_cons, step] at reached
      split at reached
      · cases reached
      · cases reached
      · have later := ih reached
        split at later
        · rename_i named
          rw [List.filter_cons_of_pos named, List.foldl_cons]
          exact later
        · rename_i other
          rw [List.filter_cons_of_neg other]
          exact later

/-- Where a written path leads does not depend on the tree. -/
theorem eq_resolve_of_locate (located : t.locate cwd written = .ok p) : p = Path.resolve cwd written := by
  rw [locate] at located
  split at located
  · cases located
  · split at located
    · cases located
    · exact eq_of_foldlM_step located

theorem foldlM_step_of_directories (kept : ∀ q, t.get? q = some .directory → t'.get? q = some .directory)
    {pieces : List String} {here : Path} (reached : pieces.foldlM t.step here = .ok p) :
    pieces.foldlM t'.step here = .ok p := by
  induction pieces generalizing here with
  | nil => exact reached
  | cons piece rest ih =>
      rw [List.foldlM_cons, FileTree.step] at reached ⊢
      cases there : t.get? here with
      | none =>
          rw [there] at reached
          cases reached
      | some entry =>
          rw [there] at reached
          cases entry with
          | file content => cases reached
          | directory =>
              rw [kept here there]
              exact ih reached

/-- A way that is open in one tree is open in every tree with the same directories. -/
theorem locate_of_directories (kept : ∀ q, t.get? q = some .directory → t'.get? q = some .directory)
    (located : t.locate cwd written = .ok p) : t'.locate cwd written = .ok p := by
  rw [FileTree.locate] at located ⊢
  split at located
  · cases located
  · rename_i plain
    rw [if_neg plain]
    split at located
    · cases located
    · rename_i given
      rw [if_neg given]
      exact foldlM_step_of_directories kept located

/-! ## Trees that differ in some files -/

/-- Two trees differ in some files only, and have no directories in their place. -/
structure AlikeExcept (files : List Path) (t t' : FileTree) : Prop where
  other : ∀ q, q ∉ files → t.get? q = t'.get? q
  before : ∀ q ∈ files, t.get? q ≠ some .directory
  after : ∀ q ∈ files, t'.get? q ≠ some .directory

/-- None of the files is looked at along a written path. -/
def Clear (files : List Path) (cwd : Path) (written : String) : Prop := ∀ q ∈ Path.steps cwd written, q ∉ files

namespace AlikeExcept

theorem symm (alike : AlikeExcept files t t') : AlikeExcept files t' t :=
  ⟨fun q other => (alike.other q other).symm, alike.after, alike.before⟩

/-- Both trees have the same directories. -/
theorem directory (alike : AlikeExcept files t t') (there : t.get? p = some .directory) :
    t'.get? p = some .directory := by
  by_cases named : p ∈ files
  · exact absurd there (alike.before p named)
  · rw [← alike.other p named, there]

/-! ### Changes -/

theorem put (alike : AlikeExcept files t t') {e : Entry} (inner : p ≠ []) (other : p ∉ files) :
    AlikeExcept files (t.put p e) (t'.put p e) := by
  constructor
  · intro q apart
    rw [get?_put t p q e inner, get?_put t' p q e inner, alike.other q apart]
  · intro q named
    rw [get?_put t p q e inner, if_neg (fun same : q = p => other (same ▸ named))]
    exact alike.before q named
  · intro q named
    rw [get?_put t' p q e inner, if_neg (fun same : q = p => other (same ▸ named))]
    exact alike.after q named

theorem remove (alike : AlikeExcept files t t') (inner : p ≠ []) (other : p ∉ files) :
    AlikeExcept files (t.remove p) (t'.remove p) := by
  constructor
  · intro q apart
    rw [get?_remove t p q inner, get?_remove t' p q inner, alike.other q apart]
  · intro q named
    rw [get?_remove t p q inner, if_neg (fun same : q = p => other (same ▸ named))]
    exact alike.before q named
  · intro q named
    rw [get?_remove t' p q inner, if_neg (fun same : q = p => other (same ▸ named))]
    exact alike.after q named

theorem content (alike : AlikeExcept files t t') (other : p ∉ files) : t.content p = t'.content p := by
  rw [FileTree.content, FileTree.content, alike.other p other]

theorem append (alike : AlikeExcept files t t') {bytes : List UInt8} (inner : p ≠ []) (other : p ∉ files) :
    AlikeExcept files (t.append p bytes) (t'.append p bytes) := by
  rw [FileTree.append, FileTree.append, alike.content other]
  exact alike.put inner other

theorem move (alike : AlikeExcept files t t') {target : Path} (inner : p ≠ []) (other : p ∉ files)
    (innerTarget : target ≠ []) (otherTarget : target ∉ files) :
    AlikeExcept files (t.move p target) (t'.move p target) := by
  rw [FileTree.move, FileTree.move, alike.other p other]
  cases t'.get? p with
  | none => exact alike
  | some entry => exact (alike.remove inner other).put innerTarget otherTarget

/-! ### Ways -/

/-- A way that is open in one tree is open in the other one. -/
theorem locate (alike : AlikeExcept files t t') (located : t.locate cwd written = .ok p) :
    t'.locate cwd written = .ok p :=
  locate_of_directories (fun _ => alike.directory) located

theorem find (alike : AlikeExcept files t t') {e : Entry} (found : t.find cwd written = .ok (p, e))
    (other : p ∉ files) : t'.find cwd written = .ok (p, e) := by
  obtain ⟨located, there⟩ := find_eq_ok_iff.1 found
  exact find_eq_ok_iff.2 ⟨alike.locate located, alike.other p other ▸ there⟩

/-! ### Ways that do not meet the files -/

theorem foldlM_step_eq (alike : AlikeExcept files t t') {pieces : List String} {here : Path}
    (clear : ∀ q ∈ Path.along here (pieces.filter Path.isName), q ∉ files) :
    pieces.foldlM t.step here = pieces.foldlM t'.step here := by
  induction pieces generalizing here with
  | nil => rfl
  | cons piece rest ih =>
      have first : here ∉ files := by
        refine clear here ?_
        cases (piece :: rest).filter Path.isName with
        | nil => exact List.mem_singleton_self _
        | cons name others => exact List.mem_cons_self ..
      rw [List.foldlM_cons, List.foldlM_cons, FileTree.step, FileTree.step, alike.other here first]
      cases t'.get? here with
      | none => rfl
      | some entry =>
          cases entry with
          | file content => rfl
          | directory =>
              refine ih fun q member => clear q ?_
              split at member
              · rename_i named
                rw [List.filter_cons_of_pos named]
                exact List.mem_cons_of_mem _ member
              · rename_i other
                rw [List.filter_cons_of_neg other]
                exact member

theorem locate_eq (alike : AlikeExcept files t t') (clear : Clear files cwd written) :
    t.locate cwd written = t'.locate cwd written := by
  rw [FileTree.locate, FileTree.locate, alike.foldlM_step_eq clear]

theorem find_eq (alike : AlikeExcept files t t') (clear : Clear files cwd written) :
    t.find cwd written = t'.find cwd written := by
  rw [FileTree.find, FileTree.find, alike.locate_eq clear]
  cases located : t'.locate cwd written with
  | error problem => rfl
  | ok q =>
      have other : q ∉ files := clear q (eq_resolve_of_locate located ▸ Path.resolve_mem_steps cwd written)
      simp only [bind, Except.bind, alike.other q other]

theorem has_eq (alike : AlikeExcept files t t') (clear : Clear files cwd written) :
    t.has cwd written = t'.has cwd written := by
  rw [has, has, alike.find_eq clear]

/-! ### Directories -/

theorem makeDirectory (alike : AlikeExcept files t t') (clear : Clear files cwd written) :
    (t.makeDirectory cwd written).2 = (t'.makeDirectory cwd written).2 ∧
      AlikeExcept files (t.makeDirectory cwd written).1 (t'.makeDirectory cwd written).1 := by
  rw [FileTree.makeDirectory, FileTree.makeDirectory, alike.locate_eq clear]
  cases located : t'.locate cwd written with
  | error problem => exact ⟨rfl, alike⟩
  | ok q =>
      have other : q ∉ files := clear q (eq_resolve_of_locate located ▸ Path.resolve_mem_steps cwd written)
      simp only [alike.other q other]
      cases there : t'.get? q with
      | none =>
          have inner : q ≠ [] := by
            rintro rfl
            cases there
          exact ⟨rfl, alike.put inner other⟩
      | some entry =>
          cases entry with
          | directory => exact ⟨rfl, alike⟩
          | file content => exact ⟨rfl, alike⟩

theorem makeUpTo (alike : AlikeExcept files t t') (clear : Clear files cwd written) {names rest : List String}
    (split : Path.names written = names.reverse ++ rest) :
    (t.makeUpTo cwd (Path.rootMark written) names).2 = (t'.makeUpTo cwd (Path.rootMark written) names).2 ∧
      AlikeExcept files (t.makeUpTo cwd (Path.rootMark written) names).1
        (t'.makeUpTo cwd (Path.rootMark written) names).1 := by
  induction names generalizing rest with
  | nil => exact ⟨rfl, alike⟩
  | cons name above ih =>
      have shorter : Path.names written = above.reverse ++ name :: rest := by
        rw [split, List.reverse_cons, List.append_assoc, List.singleton_append]
      have clearAbove : Clear files cwd (Path.join (Path.rootMark written) above.reverse) :=
        fun q member => clear q (Path.steps_join_subset cwd shorter member)
      have clearHere : Clear files cwd (Path.join (Path.rootMark written) (name :: above).reverse) :=
        fun q member => clear q (Path.steps_join_subset cwd split member)
      obtain ⟨sameFault, likeAbove⟩ := ih shorter
      rw [FileTree.makeUpTo, FileTree.makeUpTo, alike.has_eq clearAbove]
      cases t'.has cwd (Path.join (Path.rootMark written) above.reverse) with
      | true => exact alike.makeDirectory clearHere
      | false =>
          simp only [Bool.false_eq_true, if_false]
          rw [sameFault]
          cases (t'.makeUpTo cwd (Path.rootMark written) above).2 with
          | none => exact likeAbove.makeDirectory clearHere
          | some fault => exact ⟨rfl, likeAbove⟩

theorem makeDirectories (alike : AlikeExcept files t t') (clear : Clear files cwd written) :
    (t.makeDirectories cwd written).2 = (t'.makeDirectories cwd written).2 ∧
      AlikeExcept files (t.makeDirectories cwd written).1 (t'.makeDirectories cwd written).1 := by
  have split : Path.names written = (Path.names written).reverse.reverse ++ [] := by
    rw [List.reverse_reverse, List.append_nil]
  exact alike.makeUpTo clear split

end AlikeExcept

end Triage.FileTree
