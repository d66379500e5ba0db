import Mathlib.Algebra.Group.Nat.Defs
import Mathlib.Data.List.SplitBy
import Triage.Proofs.Yaml.Plain

/-!
# What a pen writes

Writing only adds characters behind those that are there. What is added for a scalar keeps to the
description of its style. Text in single quotes loses a next-line: alone it is read as a blank, and at the
front of a run of breaks it is lost or becomes a line feed.
-/

namespace Triage.Yaml

namespace Pen

variable {column : Nat} {split lines : Bool} {p q r : Pen} {cs ds : List Char}

/-- The second pen has written some characters behind those of the first. -/
def Adds (p q : Pen) (cs : List Char) : Prop := q.written = cs.reverse ++ p.written

theorem Adds.refl (p : Pen) : Adds p p [] := rfl

theorem Adds.trans (first : Adds p q cs) (second : Adds q r ds) : Adds p r (cs ++ ds) := by
  rw [Adds] at *
  rw [second, first, List.reverse_append, List.append_assoc]

theorem adds_put (p : Pen) (cs : List Char) : Adds p (p.put cs) cs := rfl

/-- Whether indenting to a column has to start a new line. -/
def Full (p : Pen) (column : Nat) : Prop := p.fresh = false ∨ column < p.column

theorem indent_full (full : p.Full column) :
    p.indent column = ⟨List.replicate column ' ' ++ '\n' :: p.written, column, true, true⟩ := by
  have line : (!p.fresh || decide (column < p.column) || (p.column == column && !p.open_)) = true := by
    obtain stale | past := full
    · simp [stale]
    · simp [past]
  rw [indent, if_pos line]
  cases column with
  | zero => rfl
  | succ column => simp [lineBreak, put]

theorem adds_indent (full : p.Full column) : Adds p (p.indent column) ('\n' :: List.replicate column ' ') := by
  rw [indent_full full, Adds, List.reverse_cons, List.reverse_replicate, List.append_assoc]
  rfl

/-- On a line that holds nothing but indicators, blanks lead to the column. -/
theorem indent_ready (fresh : p.fresh = true) (before : p.column < column) :
    p.indent column = ⟨List.replicate (column - p.column) ' ' ++ p.written, column, true, true⟩ := by
  have sameLine : (!p.fresh || decide (column < p.column) || (p.column == column && !p.open_)) = false := by
    simp [fresh, before.ne, before.le]
  simp only [indent, sameLine, Bool.false_eq_true, if_false, if_pos before]
  simp [put, fresh, Nat.add_sub_cancel' before.le]

theorem foldl_lineBreak (p : Pen) {bs : List Char} (filled : bs ≠ []) :
    bs.foldl lineBreak p = ⟨bs.reverse ++ p.written, 0, true, true⟩ := by
  induction bs generalizing p with
  | nil => exact absurd rfl filled
  | cons b bs ih =>
      cases bs with
      | nil => rfl
      | cons d ds => 
          rw [List.foldl_cons, ih _ (by simp), lineBreak, List.reverse_cons (a := b), List.append_assoc]
          rfl

/-! ## Runs -/

/-- Puts a character in front of the runs behind it. -/
def attach (c : Char) : List (List Char) → List (List Char)
  | [] => [[c]]
  | run :: rest => if Run.of c = Run.of (run.headD ' ') then (c :: run) :: rest else [c] :: run :: rest

theorem runs_cons (c : Char) (cs : List Char) : runs (c :: cs) = attach c (runs cs) := by
  obtain ⟨whole, filled, alike, apart⟩ := List.splitBy_eq_iff.1 (rfl : runs cs = runs cs)
  refine List.splitBy_eq_iff.2 ?_
  revert whole filled alike apart
  cases runs cs with
  | nil => simp [attach]
  | cons run rest =>
      intro whole filled alike apart
      cases run with
      | nil => simp at filled
      | cons d run =>
          rw [attach, List.headD_cons]
          -- the character joins the first run or stands in front of it as one of its own
          by_cases same : Run.of c = Run.of d
          · rw [if_pos same]
            refine ⟨by rw [whole]; rfl, by simpa using filled, ?_, ?_⟩
            · intro other member
              obtain rfl | later := List.mem_cons.1 member
              · exact (alike _ List.mem_cons_self).cons_cons (by simpa using same)
              · exact alike _ (List.mem_cons_of_mem _ later)
            · cases rest with
              | nil => exact List.isChain_singleton _
              | cons next rest =>
                  obtain ⟨⟨_, more, differs⟩, later⟩ := List.isChain_cons_cons.1 apart
                  exact later.cons_cons ⟨by simp, more, by simpa using differs⟩
          · rw [if_neg same]
            refine ⟨by rw [whole]; rfl, by simpa using filled, ?_, ?_⟩
            · intro other member
              obtain rfl | later := List.mem_cons.1 member
              · exact List.isChain_singleton c
              · exact alike _ later
            · exact apart.cons_cons ⟨by simp, by simp, decide_eq_false same⟩

/-- Whether the first run, if there is one, is neither of blanks nor of breaks. -/
def startsWord (rs : List (List Char)) : Prop := ∀ run ∈ rs.head?, Run.of (run.headD ' ') = .other

/-- Runs of blanks and of breaks do not meet, and other characters are letters. -/
inductive Clean : List (List Char) → Prop where
  | done : Clean []
  | spaces {n : Nat} {rs : List (List Char)} (next : startsWord rs) (rest : Clean rs) :
      Clean (List.replicate (n + 1) ' ' :: rs)
  | breaks {b : Char} {bs : List Char} {rs : List (List Char)} (all : ∀ x ∈ b :: bs, Style.isLineBreak x = true)
      (next : startsWord rs) (rest : Clean rs) : Clean ((b :: bs) :: rs)
  | word {c : Char} {cs : List Char} {rs : List (List Char)} (letters : ∀ x ∈ c :: cs, isLetter x = true)
      (rest : Clean rs) : Clean ((c :: cs) :: rs)

theorem of_eq_space {c : Char} : Run.of c = .space ↔ c = ' ' := by
  unfold Run.of
  split
  · simp_all
  · split <;> simp_all

theorem of_eq_breaks {c : Char} : Run.of c = .breaks ↔ Style.isLineBreak c = true := by
  unfold Run.of
  split
  · rename_i blank
    obtain rfl := eq_of_beq blank
    decide
  · split <;> simp_all

theorem isLetter_of_not_special {c : Char} (kind : Run.of c = .other) (plain : Style.isSpecial c = false) :
    isLetter c = true := by
  have valid : c.toNat < 0xD800 ∨ 0xDFFF < c.toNat ∧ c.toNat < 0x110000 := c.valid
  have noSpace : c ≠ ' ' := fun blank => by simp [of_eq_space.2 blank] at kind
  have noBreak : Style.isLineBreak c = false := by
    cases line : Style.isLineBreak c with
    | false => rfl
    | true => simp [of_eq_breaks.2 line] at kind
  simp only [Style.isLineBreak, Style.isSpecial, Bool.or_eq_false_iff, Bool.not_eq_false', Bool.or_eq_true,
    Bool.and_eq_true, beq_iff_eq, beq_eq_false_iff_ne, decide_eq_true_eq, bne_iff_ne, ne_eq, ← Char.toNat_inj,
    Char.reduceToNat] at noSpace noBreak plain
  simp only [isLetter, isSolid, isSteady, isBreak, isAcceptable, Bool.and_eq_true, Bool.not_eq_true',
    Bool.or_eq_false_iff, Bool.or_eq_true, beq_iff_eq, beq_eq_false_iff_ne, decide_eq_true_eq, bne_iff_ne,
    ne_eq, ← Char.toNat_inj, Char.reduceToNat]
  omega

theorem of_eq_other {c : Char} (letter : isLetter c = true) : Run.of c = .other := by
  obtain ⟨-, noSpace, noBreak⟩ := Scan.solid_iff.1 (isLetter_iff.1 letter).1
  cases kind : Run.of c with
  | space => simp [of_eq_space.1 kind, Scan.isSpace] at noSpace
  | breaks => simp [Scan.isBreak_of_isLineBreak (of_eq_breaks.1 kind)] at noBreak
  | other => rfl

theorem Clean.alone {c : Char} {rs : List (List Char)} (plain : Style.isSpecial c = false)
    (next : Run.of c ≠ .other → startsWord rs) (rest : Clean rs) : Clean ([c] :: rs) := by
  cases kind : Run.of c with
  | space =>
      obtain rfl := of_eq_space.1 kind
      exact .spaces (n := 0) (next (by simp [kind])) rest
  | breaks => exact .breaks (by simpa using of_eq_breaks.1 kind) (next (by simp [kind])) rest
  | other => exact .word (by simpa using isLetter_of_not_special kind plain) rest

theorem Clean.grow {c d : Char} {run : List Char} {rs : List (List Char)} (plain : Style.isSpecial c = false)
    (same : Run.of c = Run.of d) (rest : Clean ((d :: run) :: rs)) : Clean ((c :: d :: run) :: rs) := by
  generalize whole : d :: run = first at rest
  cases rest with
  | @spaces n _ next rest =>
      obtain ⟨rfl, -⟩ := List.cons.inj (whole.trans List.replicate_succ)
      obtain rfl := of_eq_space.1 same
      exact .spaces (n := n + 1) next rest
  | breaks all next rest =>
      obtain ⟨rfl, rfl⟩ := List.cons.inj whole
      have kind := of_eq_breaks.1 (same.trans (of_eq_breaks.2 (all d List.mem_cons_self)))
      exact .breaks (List.forall_mem_cons.2 ⟨kind, all⟩) next rest
  | word letters rest =>
      obtain ⟨rfl, rfl⟩ := List.cons.inj whole
      have kind := same.trans (of_eq_other (letters d List.mem_cons_self))
      exact .word (List.forall_mem_cons.2 ⟨isLetter_of_not_special kind plain, letters⟩) rest

theorem exists_runs (c : Char) (cs : List Char) : ∃ run rest, runs (c :: cs) = (c :: run) :: rest := by
  rw [runs_cons]
  unfold attach
  split
  · exact ⟨_, _, rfl⟩
  · split
    · exact ⟨_, _, rfl⟩
    · exact ⟨_, _, rfl⟩

theorem hasPair_cons_cons (p q : Char → Bool) (c d : Char) (cs : List Char) :
    Style.hasPair p q (c :: d :: cs) = (p c && q d || Style.hasPair p q (d :: cs)) := rfl

theorem clean_runs {cs : List Char} (allowed : Style.allowsSingle cs = true) : Clean (runs cs) := by
  simp only [Style.allowsSingle, Bool.not_eq_true', Bool.or_eq_false_iff] at allowed
  obtain ⟨⟨indented, trailing⟩, plain⟩ := allowed
  induction cs with
  | nil => exact .done
  | cons c cs ih =>
      rw [List.any_cons, Bool.or_eq_false_iff] at plain
      cases cs with
      | nil => exact .alone plain.1 (fun _ => by simp [startsWord]) .done
      | cons d cs =>
          rw [hasPair_cons_cons, Bool.or_eq_false_iff] at indented trailing
          have later := ih plain.2 indented.2 trailing.2
          obtain ⟨run, rest, same⟩ := exists_runs d cs
          rw [same] at later
          rw [runs_cons, same, attach, List.headD_cons]
          by_cases kind : Run.of c = Run.of d
          · rw [if_pos kind]
            exact later.grow plain.1 kind
          · rw [if_neg kind]
            -- of the kinds that may meet, a blank beside a break is what single quotes cannot hold
            refine .alone plain.1 (fun gap => ?_) later
            rintro _ ⟨rfl⟩
            rw [List.headD_cons]
            have noBreak : Run.of c = .space → Run.of d ≠ .breaks := by
              intro blank line
              simp [of_eq_space.1 blank, of_eq_breaks.1 line] at trailing
            have noSpace : Run.of c = .breaks → Run.of d ≠ .space := by
              intro line blank
              simp [of_eq_space.1 blank, of_eq_breaks.1 line] at indented
            cases first : Run.of c <;> cases second : Run.of d <;> simp_all

/-! ## Single quotes -/

/-- What a run in single quotes is read as. -/
def unfolded (run : List Char) : List Char :=
  if Run.of (run.headD ' ') = .breaks then
    if run.head? = some '\x85' then Scan.folded ['\n'] (run.tail.map normal) else run.map normal
  else run

/-- What a text in single quotes is read as. -/
def reread (cs : List Char) : List Char := (runs cs).flatMap unfolded

/-- Characters of words between single quotes. -/
def quoteMarks (cs : List Char) : List Char := cs.flatMap fun c => if c == '\'' then ['\'', '\''] else [c]

theorem single_quoteMarks {w m : List Char} (letters : ∀ c ∈ cs, isLetter c = true) (rest : Single lines w m) :
    Single lines (quoteMarks cs ++ w) (cs ++ m) := by
  induction cs with
  | nil => exact rest
  | cons c cs ih =>
      have later := ih fun x member => letters x (List.mem_cons_of_mem _ member)
      have letter := letters c List.mem_cons_self
      rw [quoteMarks, List.flatMap_cons, List.append_assoc]
      by_cases quote : c = '\''
      · subst quote
        exact .quote later
      · rw [if_neg (by simpa using quote)]
        by_cases mark : c = '"' ∨ c = '\\'
        · exact .mark mark later
        · exact .body (by simp_all [isBody]) later

theorem startsSolid_quoteMarks {c : Char} {w : List Char} (letter : isLetter c = true) :
    startsSolid (quoteMarks (c :: cs) ++ w) = true := by
  rw [quoteMarks, List.flatMap_cons]
  split
  · rfl
  · exact (isLetter_iff.1 letter).1

theorem quotedBreaks_adds (some : 0 < column) (p : Pen) {b : Char} {bs : List Char} :
    Adds p (p.quotedBreaks column (b :: bs))
      ((if b = '\n' then ['\n'] else []) ++ (b :: bs ++ List.replicate column ' ')) := by
  have written (q : Pen) : Adds q ((b :: bs).foldl lineBreak q |>.indent column)
      (b :: bs ++ List.replicate column ' ') := by
    rw [foldl_lineBreak q (List.cons_ne_nil b bs), indent_ready rfl some, Adds, List.reverse_append,
      List.reverse_replicate, List.append_assoc]
    rfl
  by_cases feed : b = '\n'
  · subst feed
    exact Adds.trans (q := p.lineBreak '\n') rfl (written _)
  · rw [quotedBreaks, if_neg (by simpa using feed), if_neg feed]
    exact written p

theorem single_breaks {b : Char} {bs w m : List Char} (broken : lines = true) (some : 0 < column)
    (all : ∀ x ∈ b :: bs, Style.isLineBreak x = true) (solid : startsSolid w = true) (rest : Single lines w m) :
    Single lines ((if b = '\n' then ['\n'] else []) ++ (b :: bs ++ List.replicate column ' ') ++ w)
      (unfolded (b :: bs) ++ m) := by
  have kind : Run.of b = .breaks := of_eq_breaks.2 (all b List.mem_cons_self)
  rw [unfolded, List.headD_cons, if_pos kind, List.head?_cons, List.tail_cons, List.append_assoc, List.append_assoc]
  by_cases feed : b = '\n'
  · subst feed
    have doubled := Single.breaks (b := '\n') broken (List.forall_mem_cons.2 ⟨rfl, all⟩) some solid rest
    simpa [Scan.folded, normal] using doubled
  · have plain := Single.breaks broken all some solid rest
    rw [if_neg feed, List.nil_append]
    by_cases nextLine : b = '\x85'
    · subst nextLine
      exact plain
    · have kept : normal b = b := by
        have line := all b List.mem_cons_self
        simp only [Style.isLineBreak, Bool.or_eq_true, beq_iff_eq] at line
        simp_all [normal]
      rw [if_neg (by simpa using nextLine), List.map_cons]
      rw [kept, Scan.folded, if_pos (by simpa using feed)] at plain
      rwa [kept]

theorem singleRuns_adds (some : 0 < column) (narrow : column ≤ lineWidth) {rs : List (List Char)}
    (clean : Clean rs) (folding : split = true → lines = true)
    (breaking : ∀ run ∈ rs, Run.of (run.headD ' ') = .breaks → lines = true) (first : Bool) (p : Pen) :
    ∃ w, Adds p (singleRuns column split first rs p) w ∧ Single lines w (rs.flatMap unfolded) ∧
      (startsWord rs → startsSolid w = true) := by
  induction clean generalizing first p with
  | done => exact ⟨[], .refl p, .done, fun _ => rfl⟩
  | @spaces n rs next rest ih =>
      have later := ih fun run member => breaking run (List.mem_cons_of_mem _ member)
      have blank : Run.of ((List.replicate (n + 1) ' ').headD ' ') = .space := rfl
      have kept : unfolded (List.replicate (n + 1) ' ') = List.replicate (n + 1) ' ' := rfl
      simp only [singleRuns, blank, List.flatMap_cons, kept]
      -- a single blank on a full line gives way to a break
      split
      · rename_i full
        simp only [folds, Bool.and_eq_true, beq_iff_eq, decide_eq_true_eq] at full
        obtain ⟨-, ⟨wide, alone⟩, past⟩ := full
        obtain rfl : n = 0 := by simpa using congrArg List.length alone
        obtain ⟨w, added, meant, solid⟩ := later false (p.indent column)
        refine ⟨_, (adds_indent (.inr (Nat.lt_of_le_of_lt narrow past))).trans added, ?_,
          fun starts => absurd (starts _ rfl) (by decide)⟩
        have line : ∀ x ∈ ['\n'], Style.isLineBreak x = true := List.all_eq_true.1 rfl
        exact .breaks (folding wide) line some (solid next) meant
      · obtain ⟨w, added, meant, solid⟩ := later false (p.put (List.replicate (n + 1) ' '))
        exact ⟨_, (adds_put p _).trans added, .spaces (Nat.succ_pos n) (solid next) meant,
          fun starts => absurd (starts _ rfl) (by rw [blank]; decide)⟩
  | @breaks b bs rs all next rest ih =>
      have line : Run.of b = .breaks := of_eq_breaks.2 (all b List.mem_cons_self)
      obtain ⟨w, added, meant, solid⟩ := ih (fun run member => breaking run (List.mem_cons_of_mem _ member)) false
        (p.quotedBreaks column (b :: bs))
      simp only [singleRuns, List.headD_cons, line, List.flatMap_cons]
      exact ⟨_, (quotedBreaks_adds some p).trans added,
        single_breaks (breaking _ List.mem_cons_self line) some all (solid next) meant,
        fun starts => absurd (starts _ rfl) (by rw [List.headD_cons, line]; decide)⟩
  | @word c cs rs letters rest ih =>
      have kind := of_eq_other (letters c List.mem_cons_self)
      obtain ⟨w, added, meant, -⟩ := ih (fun run member => breaking run (List.mem_cons_of_mem _ member)) false
        (p.put (quoteMarks (c :: cs)))
      simp only [singleRuns, List.headD_cons, kind, List.flatMap_cons]
      refine ⟨_, (adds_put p _).trans added, ?_, fun _ => startsSolid_quoteMarks (letters c List.mem_cons_self)⟩
      have kept : unfolded (c :: cs) = c :: cs := by simp [unfolded, kind]
      rw [kept]
      exact single_quoteMarks letters meant

/-! ## Double quotes -/

theorem double_space {w m : List Char} (rest : Double lines w m) : Double lines (' ' :: w) (' ' :: m) := by
  have alone (solid : startsSolid w = true) : Double lines (' ' :: w) (' ' :: m) :=
    .spaces (n := 1) Nat.one_pos solid rest
  cases rest with
  | done => exact alone rfl
  | body body _ => exact alone (isLetter_iff.1 (Bool.and_eq_true_iff.1 body).1).1
  | apostrophe _ => exact alone rfl
  | spaces some solid rest => exact .spaces (Nat.succ_pos _) solid rest
  | letter _ _ _ => exact alone rfl
  | code _ _ _ _ => exact alone rfl
  | fold _ _ _ _ => exact alone rfl

theorem startsSolid_double {w m : List Char} (meant : Double lines w m) (first : m.head? ≠ some ' ') :
    startsSolid w = true := by
  cases meant with
  | done => rfl
  | body body _ => exact (isLetter_iff.1 (Bool.and_eq_true_iff.1 body).1).1
  | apostrophe _ => rfl
  | @spaces n w m some _ _ =>
      obtain ⟨k, rfl⟩ := Nat.exists_eq_add_one.2 some
      exact absurd rfl first
  | letter _ _ _ => rfl
  | code _ _ _ _ => rfl
  | fold _ _ _ _ => rfl

/-- A character without an escape stands for itself. -/
theorem double_plain {c : Char} {w m : List Char} (plain : escape? c = none) (rest : Double lines w m) :
    Double lines (c :: w) (c :: m) := by
  have valid : c.toNat < 0xD800 ∨ 0xDFFF < c.toNat ∧ c.toNat < 0x110000 := c.valid
  unfold escape? at plain
  dsimp only at plain
  split at plain
  · rename_i bare
    by_cases blank : c = ' '
    · subst blank
      exact double_space rest
    · by_cases quote : c = '\''
      · subst quote
        exact .apostrophe rest
      · refine .body ?_ rest
        simp only [Bool.or_eq_true, Bool.and_eq_true, decide_eq_true_eq, bne_iff_ne, ne_eq, ← Char.toNat_inj,
          Char.reduceToNat] at bare blank quote
        simp only [isBody, isLetter, isSolid, isSteady, isBreak, isAcceptable, Bool.and_eq_true,
          Bool.not_eq_true', Bool.or_eq_false_iff, Bool.or_eq_true, beq_iff_eq, beq_eq_false_iff_ne,
          decide_eq_true_eq, bne_iff_ne, ne_eq, ← Char.toNat_inj, Char.reduceToNat]
        omega
  · split at plain
    · cases plain
    · split at plain
      · cases plain
      · split at plain <;> cases plain

theorem digitOf?_hexDigit : ∀ d < 16, Decimal.digitOf? 16 (Text.Quoted.hexDigit d).toUpper = some d := by
  decide

theorem hexadecimal_succ (width n : Nat) :
    hexadecimal (width + 1) n = hexadecimal width (n / 16) ++ [(Text.Quoted.hexDigit (n % 16)).toUpper] := by
  rw [hexadecimal, Text.Quoted.hex, List.map_append]
  rfl

theorem length_hexadecimal (width n : Nat) : (hexadecimal width n).length = width := by
  induction width generalizing n with
  | zero => rfl
  | succ width ih => rw [hexadecimal_succ, List.length_append, ih, List.length_singleton]

theorem isHex_hexadecimal (width n : Nat) : ∀ d ∈ hexadecimal width n, Scan.isHex d = true := by
  induction width generalizing n with
  | zero => simp [hexadecimal, Text.Quoted.hex]
  | succ width ih =>
      intro d member
      rw [hexadecimal_succ, List.mem_append, List.mem_singleton] at member
      obtain before | rfl := member
      · exact ih _ d before
      · rw [Scan.isHex, digitOf?_hexDigit _ (Nat.mod_lt _ (by decide))]
        rfl

theorem hexValue_hexadecimal (width n : Nat) (small : n < 16 ^ width) : Scan.hexValue (hexadecimal width n) = n := by
  induction width generalizing n with
  | zero =>
      obtain rfl : n = 0 := by simpa using small
      rfl
  | succ width ih =>
      have before := ih (n / 16) (by rw [Nat.pow_succ] at small; omega)
      rw [Scan.hexValue] at before ⊢
      rw [hexadecimal_succ, List.foldl_append, before, List.foldl_cons, List.foldl_nil,
        digitOf?_hexDigit _ (Nat.mod_lt _ (by decide))]
      simp only [Option.getD_some]
      omega

theorem escapeLetters_image : ∀ entry ∈ escapeLetters,
    Scan.escapeChar? entry.2 = some entry.1 ∧ isAscii entry.2 = true := by
  decide

/-- A character with an escape is read from it. -/
theorem double_escape {c : Char} {e w m : List Char} (escaped : escape? c = some e) (rest : Double lines w m) :
    Double lines (e ++ w) (c :: m) := by
  have code {kind : Char} {width : Nat} (places : Scan.escapeDigits? kind = some width)
      (small : c.toNat < 16 ^ width) : Double lines ('\\' :: kind :: hexadecimal width c.toNat ++ w) (c :: m) :=
    .code (by rw [places, length_hexadecimal]) (isHex_hexadecimal _ _) (hexValue_hexadecimal _ _ small) rest
  unfold escape? at escaped
  dsimp only at escaped
  split at escaped
  · cases escaped
  · split at escaped
    · rename_i letter found
      obtain rfl := Option.some.inj escaped
      obtain ⟨before, after, whole, -⟩ := List.lookup_eq_some_iff.1 found
      obtain ⟨image, plain⟩ := escapeLetters_image (c, letter) (by rw [whole]; simp)
      exact .letter image plain rest
    · split at escaped
      · obtain rfl := Option.some.inj escaped
        exact code rfl (by omega)
      · split at escaped
        · obtain rfl := Option.some.inj escaped
          exact code rfl (by omega)
        · have valid : c.toNat < 0xD800 ∨ 0xDFFF < c.toNat ∧ c.toNat < 0x110000 := c.valid
          obtain rfl := Option.some.inj escaped
          exact code rfl (by omega)

theorem continueLine_adds (tight : p.fresh = false) (next : Char) :
    Adds p (p.continueLine column next)
      ('\\' :: '\n' :: List.replicate column ' ' ++ (if next == ' ' then ['\\'] else [])) ∧
      (p.continueLine column next).fresh = false ∧ (p.continueLine column next).column ≤ column + 1 := by
  have line : Adds (p.put ['\\']) ((p.put ['\\']).indent column) _ := adds_indent (.inl tight)
  have place : ((p.put ['\\']).indent column).column = column := by
    rw [indent_full (p := p.put ['\\']) (.inl tight)]
  rw [continueLine]
  split
  · exact ⟨((adds_put p ['\\']).trans line).trans (adds_put _ ['\\']), rfl, (congrArg (· + 1) place).le⟩
  · rw [List.append_nil]
    exact ⟨(adds_put p ['\\']).trans line, rfl, place.le.trans (Nat.le_succ _)⟩

/-- Behind a broken line a blank stands behind a backslash of its own. -/
theorem double_continued {next : Char} {w m : List Char} (broken : lines = true) (some : 0 < column)
    (blank : next = ' ' → Double lines ('\\' :: w) m)
    (other : next ≠ ' ' → Double lines w m ∧ m.head? ≠ Option.some ' ') :
    Double lines ('\\' :: '\n' :: List.replicate column ' ' ++ (if next == ' ' then ['\\'] else []) ++ w) m := by
  by_cases isBlank : next = ' '
  · subst isBlank
    simpa using Double.fold broken some (by rfl) (blank rfl)
  · obtain ⟨meant, first⟩ := other isBlank
    rw [if_neg (by simpa using isBlank), List.append_nil]
    exact .fold broken some (startsSolid_double meant first) meant

/-- Characters between double quotes are written as they are meant, behind those that are held back. Where the
first one is a blank and the line is not full, they may also stand behind a backslash. -/
def WritesDouble (lines : Bool) (column : Nat) (split : Bool) (cs : List Char) : Prop :=
  ∀ (first : Bool) (held : List Char) {p : Pen}, p.fresh = false →
    (∃ w, Adds p (doubleChars column split first held cs p) (held.reverse ++ w) ∧ Double lines w cs) ∧
      (cs.head? = Option.some ' ' → p.column ≤ lineWidth →
        ∃ w, Adds p (doubleChars column split first [] cs p) w ∧ Double lines ('\\' :: w) cs)

section

variable {c : Char} {rest : List Char}

theorem headD_eq_blank_iff {cs : List Char} : cs.headD 'x' = ' ' ↔ cs.head? = Option.some ' ' := by
  cases cs <;> simp

/-- What is held back is put down in front of an escape. -/
theorem WritesDouble.escape (writes : WritesDouble lines column split rest) (some : 0 < column)
    (narrow : column < lineWidth) (folding : split = true → lines = true) {e : List Char}
    (escaped : escape? c = Option.some e) (first : Bool) (held : List Char) (tight : p.fresh = false) :
    ∃ w, Adds p (doubleChars column split first held (c :: rest) p) (held.reverse ++ w) ∧
      Double lines w (c :: rest) := by
  have put {w : List Char} {q : Pen} (later : Adds ((p.put held.reverse).put e) q w) :=
    (adds_put p held.reverse).trans ((adds_put _ e).trans later)
  simp only [doubleChars, escaped]
  split
  · rename_i wide
    have broken := folding (by simp_all)
    obtain ⟨added, tight', place⟩ :=
      continueLine_adds (p := (p.put held.reverse).put e) tight (rest.headD 'x')
    have same : rest.headD 'x' = ' ' ↔ rest.head? = Option.some ' ' := headD_eq_blank_iff
    by_cases blank : rest.head? = Option.some ' '
    · obtain ⟨w, later, meant⟩ := (writes false [] tight').2 blank (place.trans narrow)
      refine ⟨_, put (added.trans later), double_escape escaped ?_⟩
      exact double_continued broken some (fun _ => meant) fun other => absurd (same.2 blank) other
    · obtain ⟨⟨w, later, meant⟩, -⟩ := writes false [] tight'
      refine ⟨_, put (added.trans later), double_escape escaped ?_⟩
      exact double_continued broken some (fun head => absurd (same.1 head) blank) fun _ => ⟨meant, blank⟩
  · obtain ⟨⟨w, added, meant⟩, -⟩ := writes (p := (p.put held.reverse).put e) false [] tight
    exact ⟨e ++ w, put added, double_escape escaped meant⟩

/-- A character without an escape is held back, and so are those before it unless the line is broken there. -/
theorem WritesDouble.bare (writes : WritesDouble lines column split rest) (some : 0 < column)
    (folding : split = true → lines = true) (bare : escape? c = none) (first : Bool) (held : List Char)
    (tight : p.fresh = false) :
    ∃ w, Adds p (doubleChars column split first held (c :: rest) p) (held.reverse ++ w) ∧
      Double lines w (c :: rest) := by
  simp only [doubleChars, bare]
  split
  · rename_i wide
    have broken := folding (by simp_all)
    obtain ⟨added, tight', place⟩ := continueLine_adds (p := p.put held.reverse) tight c
    obtain ⟨⟨w, later, meant⟩, -⟩ := writes false [c] tight'
    refine ⟨_, (adds_put p held.reverse).trans (added.trans later), ?_⟩
    refine double_continued broken some (fun same => ?_) fun other => ?_
    · subst same
      exact .letter (l := ' ') rfl rfl meant
    · exact ⟨double_plain bare meant, by simpa using other⟩
  · obtain ⟨⟨w, added, meant⟩, -⟩ := writes false (c :: held) tight
    exact ⟨c :: w, by simpa using added, double_plain bare meant⟩

/-- On a line that is not full a blank is held back, so a backslash in front makes an escape of it. -/
theorem WritesDouble.blank (writes : WritesDouble lines column split rest) (first : Bool) (tight : p.fresh = false)
    (early : p.column ≤ lineWidth) :
    ∃ w, Adds p (doubleChars column split first [] (' ' :: rest) p) w ∧ Double lines ('\\' :: w) (' ' :: rest) := by
  have bare : escape? ' ' = none := rfl
  obtain ⟨⟨w, added, meant⟩, -⟩ := writes false [' '] tight
  refine ⟨' ' :: w, ?_, .letter (l := ' ') rfl rfl meant⟩
  simp only [doubleChars, bare]
  rw [if_neg (by simp [Nat.not_lt.2 early])]
  exact added

end

theorem doubleChars_adds (some : 0 < column) (narrow : column < lineWidth) (folding : split = true → lines = true)
    (cs : List Char) : WritesDouble lines column split cs := by
  induction cs with
  | nil =>
      refine fun first held p tight => ⟨⟨[], ?_, .done⟩, fun blank => by cases blank⟩
      rw [doubleChars, List.append_nil]
      exact adds_put p _
  | cons c rest ih =>
      intro first held p tight
      constructor
      · cases escaped : escape? c with
        | some e => exact ih.escape some narrow folding escaped first held tight
        | none => exact ih.bare some folding escaped first held tight
      · intro blank early
        obtain rfl : c = ' ' := by simpa using blank
        exact ih.blank first tight early

/-! ## Plain scalars -/

/-- Words with blanks between them. -/
inductive Wordy : List (List Char) → Prop where
  | word {w : List Char} (word : Word w) : Wordy [w]
  | more {w : List Char} {n : Nat} {rs : List (List Char)} (word : Word w) (rest : Wordy rs) :
      Wordy (w :: List.replicate (n + 1) ' ' :: rs)

/-- What may follow the first word. -/
def Follows (rs : List (List Char)) : Prop :=
  rs = [] ∨ ∃ n rest, rs = List.replicate (n + 1) ' ' :: rest ∧ Wordy rest

theorem Follows.wordy {w : List Char} {rs : List (List Char)} (follows : Follows rs) (word : Word w) :
    Wordy (w :: rs) := by
  obtain rfl | ⟨n, rest, rfl, wordy⟩ := follows
  · exact .word word
  · exact .more word wordy

/-- A text that neither ends with a blank nor holds a colon before a gap or a hash behind one. -/
structure Inline (cs : List Char) : Prop where
  kinds : ∀ c ∈ cs, c = ' ' ∨ isLetter c = true
  last : cs.getLastD 'x' ≠ ' '
  colon : Style.hasPair (· == ':') Style.isOpen (cs ++ [' ']) = false
  comment : Style.hasPair Style.isOpen (· == '#') cs = false

theorem Inline.runs {c : Char} {cs : List Char} (inline : Inline (c :: cs)) :
    (c = ' ' → ∃ n rs, runs (c :: cs) = List.replicate (n + 1) ' ' :: rs ∧ Wordy rs) ∧
      (isLetter c = true → ∃ w rs, runs (c :: cs) = (c :: w) :: rs ∧ Follows rs ∧
        (∀ x ∈ c :: w, isLetter x = true) ∧ (c :: w).getLast? ≠ some ':') := by
  induction cs generalizing c with
  | nil =>
      obtain ⟨kinds, last, colon, comment⟩ := inline
      refine ⟨fun blank => absurd blank last, fun letter => ⟨[], [], rfl, .inl rfl, by simpa using letter, ?_⟩⟩
      rintro ⟨rfl⟩
      cases colon
  | cons d cs ih =>
      obtain ⟨kinds, last, colon, comment⟩ := inline
      rw [List.cons_append, List.cons_append, hasPair_cons_cons, Bool.or_eq_false_iff] at colon
      rw [hasPair_cons_cons, Bool.or_eq_false_iff] at comment
      obtain ⟨blanks, word⟩ := ih ⟨fun x member => kinds x (List.mem_cons_of_mem _ member), by simpa using last,
        colon.2, comment.2⟩
      have noBlank : isLetter ' ' = false := rfl
      obtain rfl | first := kinds d (by simp)
      · obtain ⟨n, rs, same, wordy⟩ := blanks rfl
        rw [runs_cons, same]
        refine ⟨?_, fun letter => ⟨[], _, if_neg ?_, .inr ⟨n, rs, rfl, wordy⟩, by simpa using letter, ?_⟩⟩
        · rintro rfl
          exact ⟨n + 1, rs, rfl, wordy⟩
        · rw [of_eq_other letter]
          exact Run.noConfusion
        · rintro ⟨rfl⟩
          cases colon.1
      · obtain ⟨w, rs, same, follows, letters, ends⟩ := word first
        rw [runs_cons, same, attach, List.headD_cons, of_eq_other first]
        refine ⟨?_, fun letter => ⟨d :: w, rs, if_pos (of_eq_other letter), follows, ?_, ?_⟩⟩
        · rintro rfl
          refine ⟨0, (d :: w) :: rs, rfl, follows.wordy ⟨by simp, letters, ends, ?_⟩⟩
          rintro ⟨rfl⟩
          cases comment.1
        · exact List.forall_mem_cons.2 ⟨letter, letters⟩
        · rwa [List.getLast?_cons_cons]

/-- Something other than an indicator was written last. -/
structure Tight (p : Pen) : Prop where
  fresh : p.fresh = false
  shut : p.open_ = false

theorem plainRuns_adds (folding : split = true → lines = true) {rs : List (List Char)} (wordy : Wordy rs)
    (tight : p.Tight) :
    ∃ w q, rs.foldl (fun p run => if p.folds split run then (p.indent column).solid else p.put run) p = q ∧
      Adds p q w ∧ q.Tight ∧ Plain lines column w rs.flatten := by
  have noFold {w : List Char} (word : Word w) (p : Pen) : p.folds split w = false := by
    have other : (w == [' ']) = false := by
      refine beq_eq_false_iff_ne.2 fun blank => ?_
      have letter := word.letters ' ' (by rw [blank]; exact List.mem_singleton_self _)
      cases letter
    rw [folds, other, Bool.and_false, Bool.false_and]
  induction wordy generalizing p with
  | @word w word =>
      rw [List.foldl_cons, if_neg (by rw [noFold word]; exact Bool.false_ne_true)]
      exact ⟨w, _, rfl, adds_put p w, ⟨tight.fresh, tight.shut⟩, by simpa using Plain.word word⟩
  | @more w n rs word rest ih =>
      rw [List.foldl_cons, if_neg (by rw [noFold word]; exact Bool.false_ne_true), List.foldl_cons]
      split
      · rename_i full
        simp only [folds, Bool.and_eq_true, beq_iff_eq, decide_eq_true_eq] at full
        obtain ⟨⟨wide, alone⟩, -⟩ := full
        obtain rfl : n = 0 := by simpa using congrArg List.length alone
        obtain ⟨r, q, same, added, tight', meant⟩ := ih (p := ((p.put w).indent column).solid) ⟨rfl, rfl⟩
        refine ⟨_, q, same, (adds_put p w).trans (Adds.trans (adds_indent (.inl tight.fresh)) added), tight', ?_⟩
        simpa using Plain.fold (folding wide) word meant
      · obtain ⟨r, q, same, added, tight', meant⟩ := ih (p := (p.put w).put (List.replicate (n + 1) ' '))
          ⟨tight.fresh, tight.shut⟩
        refine ⟨_, q, same, (adds_put p w).trans ((adds_put _ _).trans added), tight', ?_⟩
        simpa using Plain.spaces word (Nat.succ_pos n) meant

theorem inline_of_allowsPlain (allowed : Style.allowsPlain cs = true) : Inline cs := by
  simp only [Style.allowsPlain, Bool.not_eq_true', Bool.or_eq_false_iff, Style.isEdge, Style.hasIndicator,
    Style.isMultiline] at allowed
  obtain ⟨⟨⟨⟨-, last⟩, oneLine⟩, plain⟩, ⟨-, colon⟩, comment⟩ := allowed
  refine ⟨fun c member => ?_, by simpa using last.1, colon, comment⟩
  cases kind : Run.of c with
  | space => exact .inl (of_eq_space.1 kind)
  | breaks =>
      have line := List.any_eq_false.1 oneLine c member
      exact absurd (of_eq_breaks.1 kind) line
  | other => exact .inr (isLetter_of_not_special kind (by simpa using List.any_eq_false.1 plain c member))

theorem isOpen_eq (c : Char) : Style.isOpen c = isSpaceOrEnd c := by
  simp only [Style.isOpen, Style.isLineBreak, isSpaceOrEnd, isGapOrEnd, isBreakOrEnd, isBreak]
  grind

theorem wordy_runs (inline : Inline cs) (filled : cs ≠ []) (edge : cs.headD 'x' ≠ ' ') (mark : cs.head? ≠ some '#') :
    Wordy (runs cs) := by
  cases cs with
  | nil => exact absurd rfl filled
  | cons c cs =>
      have letter := (inline.kinds c List.mem_cons_self).resolve_left edge
      obtain ⟨w, rs, same, follows, letters, ends⟩ := inline.runs.2 letter
      rw [same]
      exact follows.wordy ⟨by simp, letters, ends, mark⟩

theorem isBare_of_hasIndicator {w : List Char} (meant : Plain lines column w cs)
    (free : Style.hasIndicator cs = false) : isBare (firstWord w) = true := by
  obtain ⟨v, r, n, word, rfl, rfl, gap, gap'⟩ := meant.first
  rw [firstWord_append word gap]
  simp only [Style.hasIndicator, Bool.or_eq_false_iff] at free
  obtain ⟨⟨⟨⟨⟨dashes, dots⟩, mark⟩, second⟩, colon⟩, -⟩ := free
  obtain ⟨x, v', rfl, -⟩ := word.cons
  have alone : ("?-:".toList.contains x && (x :: v').length == 1) = false := by
    cases v' with
    | cons y v' => simp
    | nil =>
        -- Behind a single character stands a gap.
        have behind : Style.isOpen (n.headD ' ') = true := by
          cases n with
          | nil => rfl
          | cons y n => rw [isOpen_eq]; exact gap'
        have noMark : x ≠ '?' ∧ x ≠ '-' := by
          constructor <;> rintro rfl <;> simp_all
        have noColon : x ≠ ':' := by
          rintro rfl
          cases n with
          | nil => cases colon
          | cons y n =>
              rw [List.cons_append, List.nil_append, List.cons_append, List.cons_append, hasPair_cons_cons] at colon
              simp_all
        simp [noMark, noColon]
  have noPrefix {mark : List Char} (apart : mark.isPrefixOf (x :: v' ++ n) = false) :
      mark.isPrefixOf (x :: v') = false := by
    rw [← Bool.not_eq_true, List.isPrefixOf_iff_prefix] at apart ⊢
    exact fun before => apart (before.trans (List.prefix_append _ _))
  rw [isBare, List.headD_cons, alone, noPrefix dashes, noPrefix dots]
  simpa using mark

/-- What stands plain is understood as it is meant, and its first word is no structure. -/
theorem plain_adds (folding : split = true → lines = true) (filled : cs ≠ [])
    (allowed : Style.allowsPlain cs = true) (p : Pen) :
    ∃ w, Adds p (p.plain column split cs) ((if p.open_ then [] else [' ']) ++ w) ∧
      (p.plain column split cs).Tight ∧ Plain lines column w cs ∧ isBare (firstWord w) = true := by
  have inline := inline_of_allowsPlain allowed
  simp only [Style.allowsPlain, Bool.not_eq_true', Bool.or_eq_false_iff] at allowed
  obtain ⟨⟨⟨⟨edge, -⟩, -⟩, -⟩, free⟩ := allowed
  have noHash : cs.head? ≠ some '#' := by
    cases cs with
    | nil => simp
    | cons c cs =>
        rintro ⟨rfl⟩
        simp [Style.hasIndicator] at free
  have noBlank : cs.headD 'x' ≠ ' ' := by
    intro blank
    rw [blank] at edge
    cases edge
  have whole : (runs cs).flatten = cs := List.flatten_splitBy _ _
  obtain ⟨w, q, same, added, tight, meant⟩ := plainRuns_adds folding
    (wordy_runs inline filled noBlank noHash) (p := (if p.open_ then p else p.put [' ']).solid) ⟨rfl, rfl⟩
  rw [plain, if_neg (by simpa using filled), same]
  rw [whole] at meant
  refine ⟨w, Adds.trans ?_ added, tight, meant, isBare_of_hasIndicator meant free⟩
  split
  · exact .refl p
  · exact adds_put p [' ']

/-! ## Scalars -/

/-- A blank where one is needed. -/
def apart (p : Pen) : List Char := if p.open_ then [] else [' ']

theorem indicator_adds (p : Pen) (cs : List Char) (opens indents : Bool) :
    Adds p (p.indicator cs true opens indents) (p.apart ++ cs) := by
  rw [indicator, apart]
  split <;> simp_all [Adds, put]

theorem indicator_adds_close (p : Pen) (cs : List Char) (opens indents : Bool) :
    Adds p (p.indicator cs false opens indents) cs := by
  rw [indicator]
  simp [Adds, put]

theorem isMultiline_of_run {run : List Char} (member : run ∈ runs cs) (line : Run.of (run.headD ' ') = .breaks) :
    Style.isMultiline cs = true := by
  refine List.any_eq_true.2 ⟨run.headD ' ', ?_, of_eq_breaks.1 line⟩
  have whole : (runs cs).flatten = cs := List.flatten_splitBy _ _
  rw [← whole]
  refine List.mem_flatten_of_mem member ?_
  cases run with
  | nil => exact absurd member (List.nil_notMem_splitBy _ _)
  | cons c run => exact List.mem_cons_self

theorem single_adds (some : 0 < column) (narrow : column ≤ lineWidth) (allowed : Style.allowsSingle cs = true)
    (folding : split = true → lines = true) (breaking : Style.isMultiline cs = true → lines = true) (p : Pen) :
    ∃ w, Adds p (p.single column split cs) (p.apart ++ '\'' :: (w ++ ['\''])) ∧
      (p.single column split cs).Tight ∧ Single lines w (reread cs) := by
  obtain ⟨w, added, meant, -⟩ := singleRuns_adds some narrow (clean_runs allowed) folding
    (fun run member line => breaking (isMultiline_of_run member line)) true
    (p.indicator ['\''] true false false)
  have whole := (p.indicator_adds ['\''] false false).trans (added.trans (indicator_adds_close _ ['\''] false false))
  rw [List.append_assoc] at whole
  exact ⟨w, whole, ⟨Bool.and_false _, rfl⟩, meant⟩

theorem double_adds (some : 0 < column) (narrow : column < lineWidth) (folding : split = true → lines = true)
    (cs : List Char) (p : Pen) :
    ∃ w, Adds p (p.double column split cs) (p.apart ++ '"' :: (w ++ ['"'])) ∧
      (p.double column split cs).Tight ∧ Double lines w cs := by
  obtain ⟨⟨w, added, meant⟩, -⟩ := doubleChars_adds some narrow folding cs true [] (p := p.indicator ['"'] true false
    false) (Bool.and_false _)
  have whole := (p.indicator_adds ['"'] false false).trans (added.trans (indicator_adds_close _ ['"'] false false))
  rw [List.append_assoc] at whole
  exact ⟨w, whole, ⟨Bool.and_false _, rfl⟩, meant⟩

end Pen

open Pen in
/-- The token that a scalar is read as. -/
def scalarToken (key : Bool) (value : Data) : Content :=
  let (tag, text) := scalarForm value
  match Style.choose (Tag.ofForm text == tag) key text.toList with
  | .plain => .scalar text true
  | .single => .scalar (String.ofList (reread text.toList)) false
  | .double => .scalar text false

/-- A scalar, perhaps on several lines, and the token that it is read as. -/
inductive ScalarText (lines : Bool) (column : Nat) : List Char → Content → Prop where
  | plain {w m : List Char} (meant : Plain lines column w m) (bare : isBare (firstWord w) = true) :
      ScalarText lines column w (.scalar (String.ofList m) true)
  | single {w m : List Char} (meant : Single lines w m) :
      ScalarText lines column ('\'' :: (w ++ ['\''])) (.scalar (String.ofList m) false)
  | double {w m : List Char} (meant : Double lines w m) :
      ScalarText lines column ('"' :: (w ++ ['"'])) (.scalar (String.ofList m) false)

namespace ScalarText

variable {lines : Bool} {column : Nat} {w tail : List Char} {content : Content}

theorem filled (text : ScalarText lines column w content) : w ≠ [] := by
  cases text with
  | plain meant _ =>
      obtain ⟨v, r, -, word, rfl, -⟩ := meant.first
      simp [word.filled]
  | single _ => simp
  | double _ => simp

theorem startsText (text : ScalarText lines column w content) : Scan.startsText (w ++ tail) = true := by
  cases text with
  | plain meant _ =>
      obtain ⟨v, r, -, word, rfl, -⟩ := meant.first
      rw [List.append_assoc]
      exact Scan.startsText_append _ word
  | single _ => rfl
  | double _ => rfl

theorem steady (text : ScalarText false column w content) : ∀ c ∈ w, isSteady c = true := by
  have quoted {q : Char} {v : List Char} (ascii : isAscii q = true) (inner : ∀ c ∈ v, isSteady c = true) :
      ∀ c ∈ q :: (v ++ [q]), isSteady c = true := by
    simpa [or_imp, forall_and] using ⟨isSteady_of_isAscii ascii, inner, isSteady_of_isAscii ascii⟩
  cases text with
  | plain meant _ => exact meant.forall (fun c letter => (isLetter_iff.1 letter).2.1) rfl (by simp)
  | single meant =>
      exact quoted rfl
        (meant.forall (fun _ => isSteady_of_isBody) (fun _ => isSteady_of_isAscii) (by simp))
  | double meant =>
      exact quoted rfl
        (meant.forall (fun _ => isSteady_of_isBody) (fun _ => isSteady_of_isAscii) (by simp))

theorem acceptable (text : ScalarText lines column w content) : ∀ c ∈ w, isAcceptable c = true := by
  have quoted {q : Char} {v : List Char} (ascii : isAscii q = true) (inner : ∀ c ∈ v, isAcceptable c = true) :
      ∀ c ∈ q :: (v ++ [q]), isAcceptable c = true := by
    simpa [or_imp, forall_and] using ⟨isAcceptable_of_isAscii ascii, inner, isAcceptable_of_isAscii ascii⟩
  cases text with
  | plain meant _ => exact meant.forall (fun c letter => (isLetter_iff.1 letter).2.2) rfl (fun _ => rfl)
  | single meant =>
      exact quoted rfl (meant.forall (fun _ => isAcceptable_of_isBody) (fun _ => isAcceptable_of_isAscii)
        fun _ _ => isAcceptable_of_isLineBreak)
  | double meant =>
      exact quoted rfl (meant.forall (fun _ => isAcceptable_of_isBody) (fun _ => isAcceptable_of_isAscii) fun _ => rfl)

end ScalarText

/-- Nothing but a text is written as the empty text. -/
theorem scalarForm_filled {value : Data} (plain : (Tag.ofForm (scalarForm value).2 == (scalarForm value).1) = true) :
    (scalarForm value).2.toList ≠ [] := by
  intro empty
  have nothing : (scalarForm value).2 = "" := String.toList_eq_nil_iff.1 empty
  rw [nothing] at plain
  cases value <;> simp_all [scalarForm, Tag.ofForm]

theorem Style.choose_eq_plain {plainTag key : Bool} {cs : List Char} (chosen : choose plainTag key cs = .plain) :
    plainTag = true ∧ allowsPlain cs = true := by
  rw [choose] at chosen
  split at chosen
  · rename_i fit
    simp only [Bool.and_eq_true] at fit
    exact ⟨fit.1.1, fit.2⟩
  · split at chosen <;> cases chosen

theorem Style.choose_eq_single {plainTag key : Bool} {cs : List Char} (chosen : choose plainTag key cs = .single) :
    allowsSingle cs = true ∧ (isMultiline cs = true → (!key) = true) := by
  rw [choose] at chosen
  split at chosen
  · cases chosen
  · split at chosen
    · rename_i fit
      rw [Bool.and_eq_true] at fit
      exact ⟨fit.1, fun broken => by simp_all⟩
    · cases chosen

/-- A scalar is written as a description of its token. -/
theorem writeScalar_adds {column : Nat} (narrow : column + 2 < lineWidth) (key : Bool) (value : Data) (p : Pen) :
    ∃ w, p.Adds (writeScalar (some column) key value p) (p.apart ++ w) ∧
      (writeScalar (some column) key value p).Tight ∧ ScalarText (!key) (column + 2) w (scalarToken key value) := by
  rw [writeScalar, scalarToken]
  simp only [Option.elim_some]
  cases style : Style.choose (Tag.ofForm (scalarForm value).2 == (scalarForm value).1) key
      (scalarForm value).2.toList with
  | plain =>
      obtain ⟨tagged, allowed⟩ := Style.choose_eq_plain style
      obtain ⟨w, added, tight, meant, bare⟩ := Pen.plain_adds id (scalarForm_filled tagged) allowed p
      have text := ScalarText.plain meant bare
      rw [String.ofList_toList] at text
      exact ⟨w, added, tight, text⟩
  | single =>
      obtain ⟨allowed, breaking⟩ := Style.choose_eq_single style
      obtain ⟨w, added, tight, meant⟩ := Pen.single_adds (Nat.succ_pos (column + 1)) narrow.le allowed id breaking p
      exact ⟨_, added, tight, .single meant⟩
  | double =>
      obtain ⟨w, added, tight, meant⟩ :=
        Pen.double_adds (Nat.succ_pos (column + 1)) narrow id (scalarForm value).2.toList p
      have text : ScalarText (!key) (column + 2) ('"' :: (w ++ ['"'])) _ := .double meant
      rw [String.ofList_toList] at text
      exact ⟨_, added, tight, text⟩

end Triage.Yaml
