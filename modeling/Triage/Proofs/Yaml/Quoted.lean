import Mathlib.Data.List.TakeWhile
import Triage.Proofs.Yaml.Cursor
import Triage.Yaml.Writing

/-!
# Quoted scalars

What may stand between quotes is described apart from the writing and the reading: which characters stand
for themselves, which are written twice or as an escape, and where a line may be broken. The writer keeps
to the description, and the reader understands what keeps to it.
-/

namespace Triage.Yaml

/-- What a line break is read as. -/
def normal (b : Char) : Char := if b == '\u2028' || b == '\u2029' then b else '\n'

/-- No blank, tab or break, and not the end. -/
def isSolid (c : Char) : Bool := !(c == '\x00' || c == ' ' || c == '\t' || isBreak c)

/-- Characters of words. -/
def isLetter (c : Char) : Bool := isSolid c && isSteady c && isAcceptable c

/-- Characters that a quoted scalar takes as they are. -/
def isBody (c : Char) : Bool := isLetter c && !(c == '\'' || c == '"' || c == '\\')

/-- Characters of escapes. -/
def isAscii (c : Char) : Bool := 0x20 ≤ c.toNat && c.toNat ≤ 0x7E

/-- Whether the text before a closing quote starts with no gap. -/
def startsSolid (w : List Char) : Bool := isSolid (w.headD 'x')

/-- What stands between single quotes, perhaps on several lines, and what it means. -/
inductive Single (lines : Bool) : List Char → List Char → Prop where
  | done : Single lines [] []
  | body {c : Char} {w m : List Char} (body : isBody c = true) (rest : Single lines w m) :
      Single lines (c :: w) (c :: m)
  | mark {c : Char} {w m : List Char} (mark : c = '"' ∨ c = '\\') (rest : Single lines w m) :
      Single lines (c :: w) (c :: m)
  | quote {w m : List Char} (rest : Single lines w m) : Single lines ('\'' :: '\'' :: w) ('\'' :: m)
  | spaces {n : Nat} {w m : List Char} (some : 0 < n) (solid : startsSolid w = true)
      (rest : Single lines w m) : Single lines (List.replicate n ' ' ++ w) (List.replicate n ' ' ++ m)
  | breaks {b : Char} {bs : List Char} {n : Nat} {w m : List Char} (broken : lines = true)
      (all : ∀ x ∈ b :: bs, Style.isLineBreak x = true) (some : 0 < n) (solid : startsSolid w = true)
      (rest : Single lines w m) :
      Single lines (b :: bs ++ (List.replicate n ' ' ++ w)) (Scan.folded [normal b] (bs.map normal) ++ m)

/-- What stands between double quotes, perhaps on several lines, and what it means. -/
inductive Double (lines : Bool) : List Char → List Char → Prop where
  | done : Double lines [] []
  | body {c : Char} {w m : List Char} (body : isBody c = true) (rest : Double lines w m) :
      Double lines (c :: w) (c :: m)
  | apostrophe {w m : List Char} (rest : Double lines w m) : Double lines ('\'' :: w) ('\'' :: m)
  | spaces {n : Nat} {w m : List Char} (some : 0 < n) (solid : startsSolid w = true)
      (rest : Double lines w m) : Double lines (List.replicate n ' ' ++ w) (List.replicate n ' ' ++ m)
  | letter {l c : Char} {w m : List Char} (image : Scan.escapeChar? l = some c) (plain : isAscii l = true)
      (rest : Double lines w m) : Double lines ('\\' :: l :: w) (c :: m)
  | code {kind c : Char} {ds w m : List Char} (places : Scan.escapeDigits? kind = some ds.length)
      (digits : ∀ d ∈ ds, Scan.isHex d = true) (value : Scan.hexValue ds = c.toNat)
      (rest : Double lines w m) : Double lines ('\\' :: kind :: (ds ++ w)) (c :: m)
  | fold {n : Nat} {w m : List Char} (broken : lines = true) (some : 0 < n) (solid : startsSolid w = true)
      (rest : Double lines w m) : Double lines ('\\' :: '\n' :: (List.replicate n ' ' ++ w)) m

theorem isLetter_iff {c : Char} :
    isLetter c = true ↔ isSolid c = true ∧ isSteady c = true ∧ isAcceptable c = true := by
  simp [isLetter, and_assoc]

/-! ## Characters between quotes -/

theorem isSteady_of_isBody {c : Char} (body : isBody c = true) : isSteady c = true :=
  (isLetter_iff.1 (Bool.and_eq_true_iff.1 body).1).2.1

theorem isAcceptable_of_isBody {c : Char} (body : isBody c = true) : isAcceptable c = true :=
  (isLetter_iff.1 (Bool.and_eq_true_iff.1 body).1).2.2

theorem isAcceptable_of_isLineBreak {c : Char} (line : Style.isLineBreak c = true) : isAcceptable c = true := by
  simp only [Style.isLineBreak, Bool.or_eq_true, beq_iff_eq] at line
  obtain ((rfl | rfl) | rfl) | rfl := line <;> decide

theorem isAcceptable_of_isAscii {c : Char} (plain : isAscii c = true) : isAcceptable c = true := by
  simp only [isAscii, Bool.and_eq_true, decide_eq_true_eq] at plain
  simp [isAcceptable, plain]

theorem isSteady_of_isAscii {c : Char} (plain : isAscii c = true) : isSteady c = true := by
  simp only [isAscii, Bool.and_eq_true, decide_eq_true_eq] at plain
  simp only [isSteady, isBreak, Bool.and_eq_true, Bool.not_eq_true', Bool.or_eq_false_iff, beq_eq_false_iff_ne,
    bne_iff_ne, ne_eq, ← Char.toNat_inj, Char.reduceToNat]
  omega

theorem isAscii_of_isHex {c : Char} (digit : Scan.isHex c = true) : isAscii c = true := by
  simp only [Scan.isHex, Decimal.digitOf?] at digit
  have kinds : c.isDigit = true ∨ c.isLower = true ∨ c.isUpper = true := by
    by_contra none
    simp_all
  have lower : c.isLower = (decide (c.val ≥ 'a'.val) && decide (c.val ≤ 'z'.val)) := rfl
  have upper : c.isUpper = decide (c.val ≥ 'A'.val ∧ c.val ≤ 'Z'.val) := rfl
  simp only [Char.isDigit, lower, upper, Bool.and_eq_true, decide_eq_true_eq, ge_iff_le,
    UInt32.le_iff_toNat_le, Char.toNat_val, Char.reduceToNat] at kinds
  simp only [isAscii, Bool.and_eq_true, decide_eq_true_eq]
  omega

theorem isAscii_of_escapeDigits {kind : Char} {n : Nat} (places : Scan.escapeDigits? kind = some n) :
    isAscii kind = true := by
  unfold Scan.escapeDigits? at places
  split at places
  · rfl
  · rfl
  · rfl
  · cases places

section

variable {lines : Bool} {w m : List Char} {p : Char → Prop}

/-- What holds of letters and ASCII characters, and of breaks where there may be any, holds between single quotes. -/
theorem Single.forall (meant : Single lines w m) (body : ∀ c, isBody c = true → p c)
    (plain : ∀ c, isAscii c = true → p c)
    (line : lines = true → ∀ c, Style.isLineBreak c = true → p c) : ∀ c ∈ w, p c := by
  induction meant with
  | done => simp
  | @body c w m kind _ ih => exact List.forall_mem_cons.2 ⟨body c kind, ih⟩
  | @mark c w m mark _ ih => exact List.forall_mem_cons.2 ⟨plain c (by obtain rfl | rfl := mark <;> rfl), ih⟩
  | quote _ ih => exact List.forall_mem_cons.2 ⟨plain _ rfl, List.forall_mem_cons.2 ⟨plain _ rfl, ih⟩⟩
  | spaces _ _ _ ih =>
      refine List.forall_mem_append.2 ⟨fun c member => ?_, ih⟩
      rw [List.eq_of_mem_replicate member]
      exact plain _ rfl
  | breaks broken all _ _ _ ih =>
      refine List.forall_mem_append.2 ⟨fun c member => line broken c (all c member),
        List.forall_mem_append.2 ⟨fun c member => ?_, ih⟩⟩
      rw [List.eq_of_mem_replicate member]
      exact plain _ rfl

/-- What holds of letters and ASCII characters, and of line feeds where there may be any,
holds between double quotes. -/
theorem Double.forall (meant : Double lines w m) (body : ∀ c, isBody c = true → p c)
    (plain : ∀ c, isAscii c = true → p c)
    (line : lines = true → p '\n') : ∀ c ∈ w, p c := by
  induction meant with
  | done => simp
  | @body c w m kind _ ih => exact List.forall_mem_cons.2 ⟨body c kind, ih⟩
  | apostrophe _ ih => exact List.forall_mem_cons.2 ⟨plain _ rfl, ih⟩
  | spaces _ _ _ ih =>
      refine List.forall_mem_append.2 ⟨fun c member => ?_, ih⟩
      rw [List.eq_of_mem_replicate member]
      exact plain _ rfl
  | letter _ kind _ ih => exact List.forall_mem_cons.2 ⟨plain _ rfl, List.forall_mem_cons.2 ⟨plain _ kind, ih⟩⟩
  | code places digits _ _ ih =>
      exact List.forall_mem_cons.2 ⟨plain _ rfl, List.forall_mem_cons.2 ⟨plain _ (isAscii_of_escapeDigits places),
        List.forall_mem_append.2 ⟨fun d member => plain d (isAscii_of_isHex (digits d member)), ih⟩⟩⟩
  | fold broken _ _ _ ih =>
      refine List.forall_mem_cons.2 ⟨plain _ rfl, List.forall_mem_cons.2 ⟨line broken,
        List.forall_mem_append.2 ⟨fun c member => ?_, ih⟩⟩⟩
      rw [List.eq_of_mem_replicate member]
      exact plain _ rfl

end

namespace Scan

variable {double lines : Bool} {fuel n : Nat} {c : Cursor} {x : Char} {t w m tail : List Char}

theorem takeWhile_run {p : Char → Bool} (rest : c.rest = t ++ x :: tail) (run : ∀ y ∈ t, p y = true)
    (ends : p x = false) : (takeWhile p).run c = .ok (t, c.skip t.length) := by
  have chunk : c.rest.takeWhile p = t := by
    rw [rest, List.takeWhile_append_of_pos run, List.takeWhile_cons_of_neg (by simp [ends]), List.append_nil]
  rw [run_takeWhile, chunk]

theorem rest_behind (rest : c.rest = t ++ tail) : (c.skip t.length).rest = tail := by
  rw [Cursor.rest_skip, rest, List.drop_left]

theorem peek_eq (rest : c.rest = x :: tail) : c.peek = x := by
  rw [Cursor.peek, rest]
  rfl

/-- A run of characters is read first; what follows depends on the one behind it. -/
theorem run_quotedChars (rest : c.rest = t ++ x :: tail) (run : ∀ y ∈ t, isRun y = true) (ends : isRun x = false) :
    (quotedChars double (fuel + 1)).run c =
      (afterRun double (quotedChars double fuel) t x).run (c.skip t.length) := by
  rw [quotedChars, run_bind_of_ok (takeWhile_run rest run ends), run_bind_of_ok (run_peek _),
    peek_eq (rest_behind rest)]

theorem run_lineBreak {b : Char} (kind : Style.isLineBreak b = true) (rest : c.rest = b :: tail) :
    lineBreak.run c = .ok ([normal b], c.skip 1) := by
  simp only [Style.isLineBreak, Bool.or_eq_true, beq_iff_eq] at kind
  unfold lineBreak
  rw [run_bind_of_ok (run_get c)]
  simp only [peek_eq rest]
  obtain ((rfl | rfl) | rfl) | rfl := kind <;> rfl

theorem isBreak_of_isLineBreak {b : Char} (kind : Style.isLineBreak b = true) : isBreak b = true := by
  simp only [Style.isLineBreak, Bool.or_eq_true, beq_iff_eq] at kind
  obtain ((rfl | rfl) | rfl) | rfl := kind <;> rfl

theorem isSpace_of_isLineBreak {b : Char} (kind : Style.isLineBreak b = true) : isSpace b = false := by
  simp only [Style.isLineBreak, Bool.or_eq_true, beq_iff_eq] at kind
  obtain ((rfl | rfl) | rfl) | rfl := kind <;> rfl

theorem solid_iff : isSolid x = true ↔ x ≠ '\x00' ∧ isSpace x = false ∧ isBreak x = false := by
  simp [isSolid, isSpace, and_assoc]

theorem takeWhile_spaces (solid : isSpace x = false) (rest : c.rest = List.replicate n ' ' ++ x :: tail) :
    (takeWhile isSpace).run c = .ok (List.replicate n ' ', c.skip n) := by
  have blanks : ∀ y ∈ List.replicate n ' ', isSpace y = true := by
    intro y member
    obtain rfl := List.eq_of_mem_replicate member
    rfl
  have taken := takeWhile_run rest blanks solid
  rwa [List.length_replicate] at taken

/-- A blank or a break is no document separator. -/
theorem atSeparator_eq_false (gap : x ≠ '-' ∧ x ≠ '.') (rest : c.rest = x :: tail) : c.atSeparator = false := by
  simp [Cursor.atSeparator, Cursor.atIndicator, peek_eq rest, gap]

/-- Breaks with the blanks behind them, up to the text of the next line. -/
theorem run_quotedBreaks {bs : List Char} (all : ∀ b ∈ bs, Style.isLineBreak b = true) (some : 0 < n)
    (solid : isSolid x = true) (rest : c.rest = bs ++ (List.replicate n ' ' ++ x :: tail))
    (enough : bs.length < fuel) :
    (quotedBreaks fuel).run c = .ok (bs.map normal, c.skip (bs.length + n)) := by
  obtain ⟨more, rfl⟩ : ∃ more, fuel = more + 1 := ⟨fuel - 1, by omega⟩
  obtain ⟨-, noSpace, noBreak⟩ := solid_iff.1 solid
  induction bs generalizing c more with
  | nil =>
      obtain ⟨k, rfl⟩ : ∃ k, n = k + 1 := ⟨n - 1, by omega⟩
      have here : c.atSeparator = false := atSeparator_eq_false (by decide) rest
      have behind : (c.skip (k + 1)).rest = x :: tail := by
        have gone := rest_behind (t := List.replicate (k + 1) ' ') rest
        rwa [List.length_replicate] at gone
      have skipped : (skipWhile isSpace).run c = .ok ((), c.skip (k + 1)) := by
        rw [skipWhile, run_bind_of_ok (takeWhile_spaces noSpace rest)]
        rfl
      rw [quotedBreaks, run_bind_of_ok (run_get c), here, if_neg Bool.false_ne_true, run_bind_of_ok skipped,
        run_bind_of_ok (run_peek _), peek_eq behind, noBreak, if_neg Bool.false_ne_true, List.length_nil,
        Nat.zero_add]
      rfl
  | cons b bs ih =>
      have kind := all b List.mem_cons_self
      have here : c.atSeparator = false := by
        refine atSeparator_eq_false ?_ rest
        constructor <;> rintro rfl <;> cases kind
      have skipped : (skipWhile isSpace).run c = .ok ((), c) := by
        have none : c.rest.takeWhile isSpace = [] := by
          rw [rest, List.cons_append, List.takeWhile_cons_of_neg (by simp [isSpace_of_isLineBreak kind])]
        rw [run_skipWhile, none]
        rfl
      have first := run_lineBreak kind rest
      have later := ih (c := c.skip 1) (fun b member => all b (List.mem_cons_of_mem _ member))
        (by rw [Cursor.rest_skip, rest]; rfl) (more - 1) (by simp at enough; omega)
      rw [show more - 1 + 1 = more by simp at enough; omega] at later
      rw [quotedBreaks, run_bind_of_ok (run_get c), here, if_neg Bool.false_ne_true, run_bind_of_ok skipped,
        run_bind_of_ok (run_peek _), peek_eq rest, isBreak_of_isLineBreak kind, if_pos rfl, run_bind_of_ok first,
        run_bind_of_ok later, ← Cursor.skip_add]
      rw [List.length_cons, show 1 + (bs.length + n) = bs.length + 1 + n by omega]
      rfl

section

variable {more : Scan (List Char)} {after : Cursor}

theorem run_afterRun_spaces (solid : isSolid x = true)
    (rest : c.rest = List.replicate n ' ' ++ x :: tail) (go : more.run (c.skip n) = .ok (m, after)) :
    (afterRun double more t ' ').run c = .ok (t ++ List.replicate n ' ' ++ m, after) := by
  obtain ⟨notEnd, noSpace, noBreak⟩ := solid_iff.1 solid
  have behind : (c.skip n).rest = x :: tail := by
    have gone := rest_behind (t := List.replicate n ' ') rest
    rwa [List.length_replicate] at gone
  rw [afterRun, if_neg (by decide), if_pos (by decide), run_bind_of_ok (takeWhile_spaces noSpace rest),
    run_bind_of_ok (run_peek _), peek_eq behind, if_neg (by simpa using notEnd), noBreak,
    if_neg Bool.false_ne_true, run_bind_of_ok go]
  rfl

theorem run_afterRun_breaks {b : Char} {bs : List Char} (all : ∀ x ∈ b :: bs, Style.isLineBreak x = true)
    (some : 0 < n) (solid : isSolid x = true) (rest : c.rest = b :: bs ++ (List.replicate n ' ' ++ x :: tail))
    (go : more.run (c.skip (bs.length + 1 + n)) = .ok (m, after)) :
    (afterRun double more t b).run c = .ok (t ++ folded [normal b] (bs.map normal) ++ m, after) := by
  have kind := all b List.mem_cons_self
  have notEnd : ¬ (b == '\x00') = true := by
    intro same
    rw [eq_of_beq same] at kind
    cases kind
  have none : (takeWhile isSpace).run c = .ok ([], c) :=
    takeWhile_run (t := []) rest (by simp) (isSpace_of_isLineBreak kind)
  have behind : (c.skip 1).rest = bs ++ (List.replicate n ' ' ++ x :: tail) := by
    rw [Cursor.rest_skip, rest]
    rfl
  have later : (quotedBreaks ((c.skip 1).rest.length + 1)).run (c.skip 1) = _ :=
    run_quotedBreaks (fun y member => all y (List.mem_cons_of_mem _ member)) some solid behind
      (by rw [behind, List.length_append]; omega)
  rw [← Cursor.skip_add, show 1 + (bs.length + n) = bs.length + 1 + n by omega] at later
  rw [afterRun, if_neg notEnd, if_pos (by rw [isBreak_of_isLineBreak kind, Bool.or_true]), run_bind_of_ok none,
    run_bind_of_ok (run_peek _), peek_eq rest, if_neg notEnd, isBreak_of_isLineBreak kind, if_pos rfl,
    run_bind_of_ok (run_lineBreak kind rest), run_bind_of_ok (run_left _), run_bind_of_ok later,
    run_bind_of_ok go]
  rfl

theorem run_afterRun_end (rest : c.rest = '\'' :: tail) (single : tail.head? ≠ some '\'') :
    (afterRun false more t '\'').run c = .ok (t, c) := by
  have next : ¬ (c.peekAt 1 == '\'') = true := by
    rw [Cursor.peekAt, rest]
    cases tail with
    | nil => decide
    | cons y ys => simpa using single
  rw [afterRun, if_neg (by decide), if_neg (by decide), if_neg Bool.false_ne_true, if_pos (by decide),
    run_bind_of_ok (run_peekAt 1 c), if_neg next]
  rfl

theorem run_afterRun_quote (rest : c.rest = '\'' :: '\'' :: tail) (go : more.run (c.skip 2) = .ok (m, after)) :
    (afterRun false more t '\'').run c = .ok (t ++ '\'' :: m, after) := by
  have next : (c.peekAt 1 == '\'') = true := by
    rw [Cursor.peekAt, rest]
    rfl
  rw [afterRun, if_neg (by decide), if_neg (by decide), if_neg Bool.false_ne_true, if_pos (by decide),
    run_bind_of_ok (run_peekAt 1 c), if_pos next, run_bind_of_ok (run_skip 2 c), run_bind_of_ok go]
  rfl

theorem run_afterRun_mark (mark : x = '"' ∨ x = '\\') (go : more.run (c.skip 1) = .ok (m, after)) :
    (afterRun false more t x).run c = .ok (t ++ x :: m, after) := by
  have kind : ¬ (x == '\x00') = true ∧ ¬ (isSpace x || isBreak x) = true ∧ ¬ (x == '\'') = true := by
    obtain rfl | rfl := mark <;> decide
  rw [afterRun, if_neg kind.1, if_neg kind.2.1, if_neg Bool.false_ne_true, if_neg kind.2.2,
    run_bind_of_ok (run_forward c), run_bind_of_ok go]
  rfl

end

theorem isRun_of_isBody (body : isBody x = true) : isRun x = true := by
  simp only [isBody, isLetter, isSolid, Bool.and_eq_true, Bool.not_eq_true', Bool.or_eq_false_iff] at body
  simp [isRun, body]

theorem exists_solid {q : Char} (solid : startsSolid w = true) (quote : isSolid q = true) :
    ∃ x r, w ++ q :: t = x :: r ∧ isSolid x = true := by
  cases w with
  | nil => exact ⟨q, t, rfl, quote⟩
  | cons x w => exact ⟨x, w ++ q :: t, rfl, solid⟩

/-- Blanks within a line are kept, whichever quotes they stand between. -/
theorem run_quotedChars_spaces {q : Char} (run : ∀ y ∈ t, isRun y = true) (some : 0 < n)
    (solid : startsSolid w = true) (quote : isSolid q = true)
    (rest : c.rest = t ++ (List.replicate n ' ' ++ w ++ q :: tail))
    (later : ∀ {d : Cursor}, d.rest = w ++ q :: tail → (quotedChars double fuel).run d = .ok (m, d.skip w.length)) :
    (quotedChars double (fuel + 1)).run c =
      .ok (t ++ (List.replicate n ' ' ++ m), c.skip (t.length + (List.replicate n ' ' ++ w).length)) := by
  obtain ⟨k, rfl⟩ := Nat.exists_eq_add_one.2 some
  obtain ⟨x, r, same, solid⟩ := exists_solid (t := tail) solid quote
  have behind : (c.skip t.length).rest = List.replicate (k + 1) ' ' ++ x :: r := by
    rw [rest_behind rest, List.append_assoc, same]
  have read := @later ((c.skip t.length).skip (k + 1)) (by rw [Cursor.rest_skip, behind, ← same]; simp)
  rw [run_quotedChars (by rw [rest, List.append_assoc, same]; rfl) run (by decide),
    run_afterRun_spaces solid behind read, ← Cursor.skip_add, ← Cursor.skip_add]
  simp [Nat.add_assoc]

/-- Breaks and the blanks behind them are folded. -/
theorem run_quotedChars_breaks {b : Char} {bs : List Char} (run : ∀ y ∈ t, isRun y = true)
    (all : ∀ x ∈ b :: bs, Style.isLineBreak x = true) (some : 0 < n) (solid : startsSolid w = true)
    (rest : c.rest = t ++ (b :: bs ++ (List.replicate n ' ' ++ w) ++ '\'' :: tail))
    (later : ∀ {d : Cursor}, d.rest = w ++ '\'' :: tail → (quotedChars double fuel).run d = .ok (m, d.skip w.length)) :
    (quotedChars double (fuel + 1)).run c =
      .ok (t ++ (folded [normal b] (bs.map normal) ++ m),
        c.skip (t.length + (b :: bs ++ (List.replicate n ' ' ++ w)).length)) := by
  obtain ⟨x, r, same, solid⟩ := exists_solid (t := tail) (q := '\'') solid (by decide)
  have behind : (c.skip t.length).rest = b :: bs ++ (List.replicate n ' ' ++ x :: r) := by
    rw [rest_behind rest, List.append_assoc, List.append_assoc, same]
  have gone : ((c.skip t.length).skip (bs.length + 1 + n)).rest = w ++ '\'' :: tail := by
    rw [Cursor.skip_add, Cursor.rest_skip, Cursor.rest_skip, behind, List.drop_left' (by simp), same]
    simp
  have notRun : isRun b = false := by
    simp [isRun, isBreak_of_isLineBreak (all b List.mem_cons_self)]
  rw [run_quotedChars (by rw [rest, List.append_assoc, List.append_assoc, same]; rfl) run notRun,
    run_afterRun_breaks all some solid behind (later gone), ← Cursor.skip_add, ← Cursor.skip_add]
  simp [Nat.add_assoc, Nat.add_comm 1]

/-- What stands between single quotes is read as it is meant. -/
theorem run_quotedChars_single (meant : Single lines w m) (run : ∀ y ∈ t, isRun y = true)
    (rest : c.rest = t ++ (w ++ '\'' :: tail)) (single : tail.head? ≠ some '\'') (enough : w.length < fuel) :
    (quotedChars false fuel).run c = .ok (t ++ m, c.skip (t.length + w.length)) := by
  induction meant generalizing c t fuel with
  | done =>
      obtain ⟨more, rfl⟩ := Nat.exists_eq_add_one.2 enough
      rw [run_quotedChars rest run (by decide), run_afterRun_end (rest_behind rest) single, List.append_nil]
      rfl
  | @body x w m body _ ih =>
      -- A character that stands for itself joins the run before it.
      have read := @ih fuel c (t ++ [x]) (by simpa [or_imp, forall_and] using ⟨run, isRun_of_isBody body⟩)
        (by simpa using rest) (Nat.lt_of_succ_lt enough)
      simpa [Nat.add_assoc, Nat.add_comm 1] using read
  | @mark x w m mark _ ih =>
      obtain ⟨more, rfl⟩ := Nat.exists_eq_add_one.2 (Nat.zero_lt_of_lt enough)
      have notRun : isRun x = false := by obtain rfl | rfl := mark <;> decide
      have read := @ih more ((c.skip t.length).skip 1) [] (by simp)
        (by rw [Cursor.rest_skip, rest_behind rest]; rfl) (Nat.lt_of_succ_lt_succ enough)
      rw [run_quotedChars rest run notRun, run_afterRun_mark mark read, ← Cursor.skip_add, ← Cursor.skip_add]
      simp [Nat.add_comm 1]
  | @quote w m _ ih =>
      obtain ⟨more, rfl⟩ := Nat.exists_eq_add_one.2 (Nat.zero_lt_of_lt enough)
      have read := @ih more ((c.skip t.length).skip 2) [] (by simp)
        (by rw [Cursor.rest_skip, rest_behind rest]; rfl) (Nat.lt_of_succ_lt (Nat.lt_of_succ_lt_succ enough))
      rw [run_quotedChars rest run (by decide), run_afterRun_quote (rest_behind rest) read, ← Cursor.skip_add,
        ← Cursor.skip_add]
      simp [Nat.add_assoc, Nat.add_comm 2]
  | @spaces n w m some solid _ ih =>
      obtain ⟨more, rfl⟩ := Nat.exists_eq_add_one.2 (Nat.zero_lt_of_lt enough)
      refine run_quotedChars_spaces run some solid (by decide) rest fun {d} behind => ?_
      have read := @ih more d [] (by simp) behind (by simp at enough; omega)
      simpa using read
  | @breaks b bs n w m _ all some solid _ ih =>
      obtain ⟨more, rfl⟩ := Nat.exists_eq_add_one.2 (Nat.zero_lt_of_lt enough)
      refine run_quotedChars_breaks run all some solid rest fun {d} behind => ?_
      have read := @ih more d [] (by simp) behind (by simp at enough; omega)
      simpa using read

/-! ## Escapes -/

theorem run_escape_letter {l : Char} (image : escapeChar? l = some x) (rest : c.rest = l :: tail) :
    escape.run c = .ok ([x], c.skip 1) := by
  rw [escape, run_bind_of_ok (run_peek c), peek_eq rest]
  simp only [image]
  rfl

theorem run_codeChar (x : Char) (c : Cursor) : (codeChar x.toNat).run c = .ok (x, c) := by
  have valid : x.toNat.isValidChar := x.valid
  have small : x.toNat < 0x110000 := by
    obtain low | ⟨-, high⟩ := valid <;> omega
  rw [codeChar, if_neg (by omega), if_neg (by omega), if_pos valid, Char.ofNat_toNat]
  rfl

theorem run_escape_code {kind : Char} {ds : List Char} (places : escapeDigits? kind = some ds.length)
    (digits : ∀ d ∈ ds, isHex d = true) (value : hexValue ds = x.toNat) (rest : c.rest = kind :: (ds ++ tail)) :
    escape.run c = .ok ([x], c.skip (1 + ds.length)) := by
  have noLetter : escapeChar? kind = none := by
    unfold escapeDigits? at places
    split at places
    · rfl
    · rfl
    · rfl
    · cases places
  have behind : (c.skip 1).rest = ds ++ tail := by
    rw [Cursor.rest_skip, rest]
    rfl
  have taken : (c.skip 1).rest.take ds.length = ds := by rw [behind, List.take_left]
  have good : ds.takeWhile isHex = ds := List.takeWhile_eq_self_iff.2 digits
  rw [escape, run_bind_of_ok (run_peek c), peek_eq rest]
  simp only [noLetter, places]
  rw [run_bind_of_ok (run_forward c), run_bind_of_ok (run_get _), taken, good, if_neg (Nat.lt_irrefl _), value,
    run_bind_of_ok (run_codeChar _ _), run_bind_of_ok (run_skip _ _), ← Cursor.skip_add]
  rfl

theorem run_escape_fold (some : 0 < n) (solid : isSolid x = true)
    (rest : c.rest = '\n' :: (List.replicate n ' ' ++ x :: tail)) :
    escape.run c = .ok ([], c.skip (1 + n)) := by
  have behind : (c.skip 1).rest = [] ++ (List.replicate n ' ' ++ x :: tail) := by
    rw [Cursor.rest_skip, rest]
    rfl
  have later : (quotedBreaks ((c.skip 1).rest.length + 1)).run (c.skip 1) = _ :=
    run_quotedBreaks (by simp) some solid behind (Nat.succ_pos _)
  have noLetter : escapeChar? '\n' = none := rfl
  have noDigits : escapeDigits? '\n' = none := rfl
  rw [escape, run_bind_of_ok (run_peek c), peek_eq rest]
  simp only [noLetter, noDigits]
  rw [if_pos (by decide), run_bind_of_ok (run_lineBreak (b := '\n') rfl rest), run_bind_of_ok (run_left _), later,
    ← Cursor.skip_add, List.length_nil, Nat.zero_add]
  rfl

section

variable {more : Scan (List Char)} {after : Cursor} {image : List Char}

theorem run_afterRun_close : (afterRun true more t '"').run c = .ok (t, c) :=
  rfl

theorem run_afterRun_apostrophe (go : more.run (c.skip 1) = .ok (m, after)) :
    (afterRun true more t '\'').run c = .ok (t ++ '\'' :: m, after) := by
  rw [afterRun, if_neg (by decide), if_neg (by decide), if_pos rfl, if_neg (by decide), if_neg (by decide),
    run_bind_of_ok (run_forward c), run_bind_of_ok go]
  rfl

theorem run_afterRun_escape {place : Cursor} (escaped : escape.run (c.skip 1) = .ok (image, place))
    (go : more.run place = .ok (m, after)) :
    (afterRun true more t '\\').run c = .ok (t ++ image ++ m, after) := by
  rw [afterRun, if_neg (by decide), if_neg (by decide), if_pos rfl, if_neg (by decide), if_pos (by decide),
    run_bind_of_ok (run_forward c), run_bind_of_ok escaped, run_bind_of_ok go]
  rfl

end

/-- A backslash is read with the escape behind it. -/
theorem run_quotedChars_escape (e image : List Char) (run : ∀ y ∈ t, isRun y = true)
    (rest : c.rest = t ++ ('\\' :: (e ++ w) ++ '"' :: tail))
    (escaped : ∀ {d : Cursor}, d.rest = e ++ (w ++ '"' :: tail) → escape.run d = .ok (image, d.skip e.length))
    (later : ∀ {d : Cursor}, d.rest = w ++ '"' :: tail → (quotedChars true fuel).run d = .ok (m, d.skip w.length)) :
    (quotedChars true (fuel + 1)).run c =
      .ok (t ++ (image ++ m), c.skip (t.length + ('\\' :: (e ++ w)).length)) := by
  have behind : ((c.skip t.length).skip 1).rest = e ++ (w ++ '"' :: tail) := by
    rw [Cursor.rest_skip, rest_behind rest]
    simp
  have read := later (rest_behind behind)
  rw [run_quotedChars rest run (by decide), run_afterRun_escape (escaped behind) read, ← Cursor.skip_add,
    ← Cursor.skip_add, ← Cursor.skip_add, List.append_assoc, List.length_cons, List.length_append,
    Nat.add_comm 1]

/-- What stands between double quotes is read as it is meant. -/
theorem run_quotedChars_double (meant : Double lines w m) (run : ∀ y ∈ t, isRun y = true)
    (rest : c.rest = t ++ (w ++ '"' :: tail)) (enough : w.length < fuel) :
    (quotedChars true fuel).run c = .ok (t ++ m, c.skip (t.length + w.length)) := by
  induction meant generalizing c t fuel with
  | done =>
      obtain ⟨more, rfl⟩ := Nat.exists_eq_add_one.2 enough
      rw [run_quotedChars rest run (by decide), run_afterRun_close, List.append_nil]
      rfl
  | @body x w m body _ ih =>
      have read := @ih fuel c (t ++ [x]) (by simpa [or_imp, forall_and] using ⟨run, isRun_of_isBody body⟩)
        (by simpa using rest) (Nat.lt_of_succ_lt enough)
      simpa [Nat.add_assoc, Nat.add_comm 1] using read
  | @apostrophe w m _ ih =>
      obtain ⟨more, rfl⟩ := Nat.exists_eq_add_one.2 (Nat.zero_lt_of_lt enough)
      have read := @ih more ((c.skip t.length).skip 1) [] (by simp)
        (by rw [Cursor.rest_skip, rest_behind rest]; rfl) (Nat.lt_of_succ_lt_succ enough)
      rw [run_quotedChars rest run (by decide), run_afterRun_apostrophe read, ← Cursor.skip_add,
        ← Cursor.skip_add]
      simp [Nat.add_comm 1]
  | @spaces n w m some solid _ ih =>
      obtain ⟨more, rfl⟩ := Nat.exists_eq_add_one.2 (Nat.zero_lt_of_lt enough)
      refine run_quotedChars_spaces run some solid (by decide) rest fun {d} behind => ?_
      have read := @ih more d [] (by simp) behind (by simp at enough; omega)
      simpa using read
  | @letter l x w m image _ _ ih =>
      obtain ⟨more, rfl⟩ := Nat.exists_eq_add_one.2 (Nat.zero_lt_of_lt enough)
      refine run_quotedChars_escape [l] [x] run rest (run_escape_letter image) fun {d} behind => ?_
      have read := @ih more d [] (by simp) behind (by simp at enough; omega)
      simpa using read
  | @code kind x ds w m places digits value _ ih =>
      obtain ⟨more, rfl⟩ := Nat.exists_eq_add_one.2 (Nat.zero_lt_of_lt enough)
      refine run_quotedChars_escape (kind :: ds) [x] run rest (fun {d} behind => ?_) fun {d} behind => ?_
      · rw [List.length_cons, Nat.add_comm]
        exact run_escape_code places digits value behind
      · have read := @ih more d [] (by simp) behind (by simp at enough; omega)
        simpa using read
  | @fold n w m _ some solid _ ih =>
      obtain ⟨more, rfl⟩ := Nat.exists_eq_add_one.2 (Nat.zero_lt_of_lt enough)
      obtain ⟨x, r, same, solid⟩ := exists_solid (t := tail) (q := '"') solid (by decide)
      refine run_quotedChars_escape ('\n' :: List.replicate n ' ') [] run rest
        (fun {d} behind => ?_) fun {d} behind => ?_
      · rw [List.length_cons, List.length_replicate, Nat.add_comm]
        exact run_escape_fold some solid (same ▸ behind)
      · have read := @ih more d [] (by simp) behind (by simp at enough; omega)
        simpa using read

theorem run_quoted_single (meant : Single lines w m) (rest : c.rest = '\'' :: (w ++ '\'' :: tail))
    (single : tail.head? ≠ some '\'') :
    (quoted false).run c = .ok (.scalar (String.ofList m) false, c.skip (w.length + 2)) := by
  have behind : (c.skip 1).rest = [] ++ (w ++ '\'' :: tail) := by
    rw [Cursor.rest_skip, rest]
    rfl
  have read : (quotedChars false ((c.skip 1).rest.length + 1)).run (c.skip 1) = _ :=
    run_quotedChars_single meant (by simp) behind single
      (by simp only [behind, List.length_append, List.length_cons]; omega)
  rw [quoted, run_bind_of_ok (run_forward c), run_bind_of_ok (run_left _), run_bind_of_ok read,
    run_bind_of_ok (run_forward _), ← Cursor.skip_add, ← Cursor.skip_add, List.length_nil, Nat.zero_add,
    Nat.add_comm 1, Nat.add_assoc]
  rfl

theorem run_quoted_double (meant : Double lines w m) (rest : c.rest = '"' :: (w ++ '"' :: tail)) :
    (quoted true).run c = .ok (.scalar (String.ofList m) false, c.skip (w.length + 2)) := by
  have behind : (c.skip 1).rest = [] ++ (w ++ '"' :: tail) := by
    rw [Cursor.rest_skip, rest]
    rfl
  have read : (quotedChars true ((c.skip 1).rest.length + 1)).run (c.skip 1) = _ :=
    run_quotedChars_double meant (by simp) behind (by simp only [behind, List.length_append, List.length_cons]; omega)
  rw [quoted, run_bind_of_ok (run_forward c), run_bind_of_ok (run_left _), run_bind_of_ok read,
    run_bind_of_ok (run_forward _), ← Cursor.skip_add, ← Cursor.skip_add, List.length_nil, Nat.zero_add,
    Nat.add_comm 1, Nat.add_assoc]
  rfl

end Scan

end Triage.Yaml
