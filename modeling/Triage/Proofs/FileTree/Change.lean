import Triage.Proofs.FileTree

/-!
# Changes of trees

What an operation does to the entry at one path. A file is written, moved or left alone. Where directories are made,
all that was there stays, and only free paths become directories.
-/

namespace Triage.FileTree

variable {t t' t'' : FileTree} {p q source target : Path} {bytes : List UInt8}

/-! ## Files -/

/-- The octets of the file at a path. -/
def file? (t : FileTree) (p : Path) : Option (List UInt8) :=
  match t.get? p with
  | some (.file bytes) => some bytes
  | _ => none

theorem file?_eq_some_iff : t.file? p = some bytes ↔ t.get? p = some (.file bytes) := by
  rw [file?]
  cases t.get? p with
  | none => simp
  | some entry => cases entry <;> simp

theorem file?_congr (same : t.get? p = t'.get? q) : t.file? p = t'.file? q := by
  rw [file?, file?, same]

theorem content_of_file? (there : t.file? p = some bytes) : t.content p = bytes := by
  rw [content, file?_eq_some_iff.1 there]

theorem content_of_file?_eq_none (missing : t.file? p = none) : t.content p = [] := by
  rw [content]
  split
  · rename_i bytes there
    rw [file?_eq_some_iff.2 there] at missing
    cases missing
  · rfl

/-- The root is no file. -/
theorem ne_nil_of_file? (there : t.file? p = some bytes) : p ≠ [] := by
  rintro rfl
  cases there

/-! ## Appending -/

theorem get?_append_of_ne (inner : p ≠ []) (apart : q ≠ p) : (t.append p bytes).get? q = t.get? q := by
  rw [append, get?_put t p q _ inner, if_neg apart]

theorem file?_append (inner : p ≠ []) : (t.append p bytes).file? p = some (t.content p ++ bytes) := by
  rw [file?_eq_some_iff, append, get?_put t p p _ inner, if_pos rfl]

/-! ## Moving -/

theorem get?_move_of_ne (inner : source ≠ []) (innerTarget : target ≠ []) (apart : q ≠ source)
    (apartTarget : q ≠ target) : (t.move source target).get? q = t.get? q := by
  rw [move]
  cases t.get? source with
  | none => rfl
  | some entry => rw [get?_put _ _ _ _ innerTarget, if_neg apartTarget, get?_remove _ _ _ inner, if_neg apart]

theorem get?_move_source (inner : source ≠ []) (innerTarget : target ≠ []) (apart : source ≠ target) :
    (t.move source target).get? source = none := by
  rw [move]
  cases there : t.get? source with
  | none => exact there
  | some entry => rw [get?_put _ _ _ _ innerTarget, if_neg apart, get?_remove _ _ _ inner, if_pos rfl]

/-- A file that is moved where a file was only if it is one itself is what stands there then. -/
theorem file?_move_target (innerTarget : target ≠ [])
    (follows : (t.file? target).isSome = true → (t.file? source).isSome = true) :
    (t.move source target).file? target = t.file? source := by
  rw [move]
  cases there : t.get? source with
  | none =>
      have missing : t.file? source = none := by rw [file?, there]
      rw [missing] at follows ⊢
      simpa using follows
  | some entry =>
      refine file?_congr ?_
      rw [get?_put _ _ _ _ innerTarget, if_pos rfl, there]

/-! ## Making directories -/

/-- What was at a path is still there, and where nothing was there is a directory at most. -/
def Untouched (t t' : FileTree) (q : Path) : Prop :=
  t'.get? q = t.get? q ∨ t.get? q = none ∧ t'.get? q = some .directory

namespace Untouched

theorem refl (t : FileTree) (q : Path) : t.Untouched t q := .inl rfl

theorem trans (first : t.Untouched t' q) (second : t'.Untouched t'' q) : t.Untouched t'' q := by
  rcases second with same | ⟨free, made⟩
  · rw [Untouched, same]
    exact first
  · rcases first with same | ⟨-, taken⟩
    · exact .inr ⟨same ▸ free, made⟩
    · rw [taken] at free
      cases free

theorem file? (untouched : t.Untouched t' q) : t'.file? q = t.file? q := by
  rcases untouched with same | ⟨free, made⟩
  · exact file?_congr same
  · rw [FileTree.file?, FileTree.file?, free, made]

end Untouched

theorem untouched_makeDirectory (t : FileTree) (cwd : Path) (written : String) (q : Path) :
    t.Untouched (t.makeDirectory cwd written).1 q := by
  rw [makeDirectory]
  cases t.locate cwd written with
  | error problem => exact .refl t q
  | ok p =>
      cases there : t.get? p with
      | some entry => cases entry <;> simpa only [there] using .refl t q
      | none =>
          have inner : p ≠ [] := by
            rintro rfl
            cases there
          simp only [there]
          rw [Untouched, get?_put t p q _ inner]
          split
          · rename_i here
            exact .inr ⟨here ▸ there, rfl⟩
          · exact .inl rfl

theorem untouched_makeUpTo (t : FileTree) (cwd : Path) (mark : String) (names : List String) (q : Path) :
    t.Untouched (t.makeUpTo cwd mark names).1 q := by
  induction names with
  | nil => exact .refl t q
  | cons name above ih =>
      rw [makeUpTo]
      have before : t.Untouched
          (if t.has cwd (Path.join mark above.reverse) then (t, none) else t.makeUpTo cwd mark above).1 q := by
        split
        · exact .refl t q
        · exact ih
      revert before
      generalize (if t.has cwd (Path.join mark above.reverse) then (t, none) else t.makeUpTo cwd mark above) = x
      obtain ⟨made, fault⟩ := x
      intro before
      cases fault with
      | some f => exact before
      | none => exact before.trans (untouched_makeDirectory made cwd _ q)

theorem untouched_makeDirectories (t : FileTree) (cwd : Path) (written : String) (q : Path) :
    t.Untouched (t.makeDirectories cwd written).1 q :=
  untouched_makeUpTo t cwd _ _ q

/-! ## Growing -/

variable {cwd : Path} {written : String}

/-- What is there is still there, directories as such. -/
structure Extends (t t' : FileTree) : Prop where
  directory : ∀ p, t.get? p = some .directory → t'.get? p = some .directory
  entry : ∀ p, (t.get? p).isSome = true → (t'.get? p).isSome = true

namespace Extends

theorem of_untouched (untouched : ∀ q, t.Untouched t' q) : Extends t t' := by
  constructor
  · intro p there
    rcases untouched p with same | ⟨-, made⟩
    · rw [same, there]
    · exact made
  · intro p there
    rcases untouched p with same | ⟨-, made⟩
    · rwa [same]
    · rw [made]
      rfl

theorem append (extended : Extends t t') (inner : p ≠ []) (other : t'.get? p ≠ some .directory) :
    Extends t (t'.append p bytes) := by
  constructor
  · intro q there
    have directory := extended.directory q there
    have apart : q ≠ p := fun same => other (same ▸ directory)
    rw [get?_append_of_ne inner apart, directory]
  · intro q there
    by_cases same : q = p
    · rw [same, file?_eq_some_iff.1 (file?_append inner)]
      rfl
    · rw [get?_append_of_ne inner same]
      exact extended.entry q there

/-- What a written path leads to does not get out of reach. -/
theorem has (extended : Extends t t') (there : t.has cwd written = true) : t'.has cwd written = true := by
  rw [FileTree.has] at there ⊢
  cases found : t.find cwd written with
  | error problem =>
      rw [found] at there
      cases there
  | ok place =>
      obtain ⟨p, e⟩ := place
      obtain ⟨located, entry⟩ := find_eq_ok_iff.1 found
      obtain ⟨e', entry'⟩ := Option.isSome_iff_exists.1 (extended.entry p (by rw [entry]; rfl))
      rw [find_eq_ok_iff.2 ⟨locate_of_directories extended.directory located, entry'⟩]
      rfl

end Extends

end Triage.FileTree
