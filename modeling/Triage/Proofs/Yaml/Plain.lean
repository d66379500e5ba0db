import Triage.Proofs.Yaml.Quoted

/-!
# Plain scalars

A plain scalar is made of words with blanks or single line breaks between them. It is read up to the
colon of a key, or up to a line that does not lie deeper than the collection it is in.
-/

namespace Triage.Yaml

/-- What may stand between two gaps of a plain scalar. -/
structure Word (w : List Char) : Prop where
  filled : w ≠ []
  letters : ∀ c ∈ w, isLetter c = true
  colon : w.getLast? ≠ some ':'
  comment : w.head? ≠ some '#'

/-- A plain scalar, perhaps with lines from a column on, and what it means. -/
inductive Plain (lines : Bool) (column : Nat) : List Char → List Char → Prop where
  | word {w : List Char} (word : Word w) : Plain lines column w w
  | spaces {w r m : List Char} {n : Nat} (word : Word w) (some : 0 < n) (rest : Plain lines column r m) :
      Plain lines column (w ++ (List.replicate n ' ' ++ r)) (w ++ (List.replicate n ' ' ++ m))
  | fold {w r m : List Char} (broken : lines = true) (word : Word w) (rest : Plain lines column r m) :
      Plain lines column (w ++ '\n' :: (List.replicate column ' ' ++ r)) (w ++ ' ' :: m)

theorem isSpaceOrEnd_of_solid {c : Char} (solid : isSolid c = true) : isSpaceOrEnd c = false := by
  simp only [isSolid, Bool.not_eq_true', Bool.or_eq_false_iff] at solid
  simp [isSpaceOrEnd, isGapOrEnd, isBreakOrEnd, solid]

theorem Word.cons {w : List Char} (word : Word w) : ∃ x r, w = x :: r ∧ isSolid x = true := by
  cases w with
  | nil => exact absurd rfl word.filled
  | cons x r => exact ⟨x, r, rfl, (isLetter_iff.1 (word.letters x List.mem_cons_self)).1⟩

/-- A plain scalar starts with a whole word of what it means. -/
theorem Plain.first {lines : Bool} {column : Nat} {w m : List Char} (meant : Plain lines column w m) :
    ∃ v r n, Word v ∧ w = v ++ r ∧ m = v ++ n ∧ isSpaceOrEnd (r.headD '\x00') = true ∧
      isSpaceOrEnd (n.headD '\x00') = true := by
  cases meant with
  | word word => exact ⟨w, [], [], word, (List.append_nil w).symm, (List.append_nil w).symm, rfl, rfl⟩
  | @spaces v r m n word some _ =>
      obtain ⟨k, rfl⟩ := Nat.exists_eq_add_one.2 some
      exact ⟨v, _, _, word, rfl, rfl, rfl, rfl⟩
  | @fold v r m _ word _ => exact ⟨v, _, _, word, rfl, rfl, rfl, rfl⟩

/-- What holds of letters and blanks, and of line feeds where there may be any, holds of plain scalars. -/
theorem Plain.forall {lines : Bool} {column : Nat} {w m : List Char} {p : Char → Prop} (meant : Plain lines column w m)
    (letter : ∀ c, isLetter c = true → p c) (blank : p ' ') (line : lines = true → p '\n') : ∀ c ∈ w, p c := by
  have word {v : List Char} (word : Word v) : ∀ c ∈ v, p c := fun c member => letter c (word.letters c member)
  have blanks (n : Nat) : ∀ c ∈ List.replicate n ' ', p c := fun c member => List.eq_of_mem_replicate member ▸ blank
  induction meant with
  | word single => exact word single
  | spaces first _ _ ih => exact List.forall_mem_append.2 ⟨word first, List.forall_mem_append.2 ⟨blanks _, ih⟩⟩
  | fold broken first _ ih =>
      exact List.forall_mem_append.2 ⟨word first, List.forall_mem_cons.2 ⟨line broken,
        List.forall_mem_append.2 ⟨blanks _, ih⟩⟩⟩

/-- The characters before the first gap. -/
def firstWord (cs : List Char) : List Char := cs.takeWhile (!isSpaceOrEnd ·)

/-- Whether a first word is that of a plain scalar. -/
def isBare (v : List Char) : Bool :=
  !("#,[]\x7b\x7d&*!|>'\"%@\x60".toList.contains (v.headD '#') || ("?-:".toList.contains (v.headD '#') && v.length == 1)
    || "---".toList.isPrefixOf v || "...".toList.isPrefixOf v)

theorem firstWord_append {v r : List Char} (word : Word v) (gap : isSpaceOrEnd (r.headD '\x00') = true) :
    firstWord (v ++ r) = v := by
  have solid : ∀ c ∈ v, (!isSpaceOrEnd c) = true := fun c member => by
    rw [isSpaceOrEnd_of_solid (isLetter_iff.1 (word.letters c member)).1]
    rfl
  rw [firstWord, List.takeWhile_append_of_pos solid]
  cases r with
  | nil => rw [List.takeWhile_nil, List.append_nil]
  | cons x r => rw [List.takeWhile_cons_of_neg (by simpa using gap), List.append_nil]

namespace Scan

variable {lines : Bool} {fuel n k : Nat} {c : Cursor} {x : Char} {w m tail spaces : List Char}

/-- Whether a plain scalar ends here. -/
def endsHere (cs : List Char) : Bool := endsPlain false (cs.headD '\x00') (cs.tail.headD '\x00')

theorem endsPlain_eq (c next : Char) :
    endsPlain false c next = (isSpaceOrEnd c || (c == ':' && isSpaceOrEnd next)) := by
  simp [endsPlain]

theorem plainWord_append (word : Word w) (ends : endsHere tail = true) : plainWord false (w ++ tail) = w := by
  obtain ⟨-, letters, colon, -⟩ := word
  induction w with
  | nil =>
      cases tail with
      | nil => rfl
      | cons y ys =>
          rw [List.nil_append, plainWord]
          exact if_pos ends
  | cons y w ih =>
      have solid : isSpaceOrEnd y = false :=
        isSpaceOrEnd_of_solid (isLetter_iff.1 (letters y List.mem_cons_self)).1
      -- a colon ends the word only in front of a gap, and it is not the last character
      have inner : endsPlain false y ((w ++ tail).headD '\x00') = false := by
        rw [endsPlain_eq, solid, Bool.false_or]
        cases w with
        | nil =>
            have other : y ≠ ':' := by simpa using colon
            simp [other]
        | cons z w =>
            have next : isSpaceOrEnd z = false :=
              isSpaceOrEnd_of_solid (isLetter_iff.1 (letters z (by simp))).1
            simp [next]
      rw [List.cons_append, plainWord, if_neg (by rw [inner]; exact Bool.false_ne_true)]
      congr 1
      refine ih (fun z member => letters z (List.mem_cons_of_mem _ member)) ?_
      intro last
      cases w with
      | nil => cases last
      | cons z w => exact colon (by rwa [List.getLast?_cons_cons])

theorem run_plainSpaces_gap (solid : isSolid x = true) (rest : c.rest = List.replicate n ' ' ++ x :: tail) :
    plainSpaces.run c = .ok ((List.replicate n ' ', false), c.skip n) := by
  obtain ⟨-, noSpace, noBreak⟩ := solid_iff.1 solid
  have taken : (takeWhile (· == ' ')).run c = .ok (List.replicate n ' ', c.skip n) := by
    have blanks : ∀ y ∈ List.replicate n ' ', (y == ' ') = true := by
      intro y member
      obtain rfl := List.eq_of_mem_replicate member
      rfl
    have notBlank : (x == ' ') = false := (Bool.or_eq_false_iff.1 noSpace).1
    have run := takeWhile_run rest blanks notBlank
    rwa [List.length_replicate] at run
  have behind : (c.skip n).rest = x :: tail := by
    have gone := rest_behind (t := List.replicate n ' ') rest
    rwa [List.length_replicate] at gone
  rw [plainSpaces, run_bind_of_ok taken, run_bind_of_ok (run_peek _), peek_eq behind, noBreak,
    if_neg Bool.false_ne_true]
  rfl

/-- What may follow the blanks that start a line. -/
def startsText (cs : List Char) : Bool :=
  let c := cs.headD '\x00'
  !(c == ' ' || c == '#' || c == '\uFEFF' || isBreak c)

theorem startsText_iff : startsText tail = true ↔ tail.headD '\x00' ≠ ' ' ∧ tail.headD '\x00' ≠ '#' ∧
    tail.headD '\x00' ≠ '\uFEFF' ∧ isBreak (tail.headD '\x00') = false := by
  simp [startsText, and_assoc]

theorem run_plainBreaks (starts : startsText tail = true) (rest : c.rest = List.replicate k ' ' ++ tail)
    (enough : k < fuel) : (plainBreaks fuel).run c = .ok (some [], c.skip k) := by
  obtain ⟨noBlank, -, -, noBreak⟩ := startsText_iff.1 starts
  induction k generalizing c fuel with
  | zero =>
      obtain ⟨more, rfl⟩ := Nat.exists_eq_add_one.2 enough
      have here : c.peek = tail.headD '\x00' := by
        rw [Cursor.peek, rest]
        rfl
      rw [plainBreaks, run_bind_of_ok (run_peek c), here, if_neg (by simpa using noBlank), noBreak,
        if_neg Bool.false_ne_true]
      rfl
  | succ k ih =>
      obtain ⟨more, rfl⟩ := Nat.exists_eq_add_one.2 (Nat.zero_lt_of_lt enough)
      have later := ih (c := c.skip 1) (by rw [Cursor.rest_skip, rest]; rfl) (Nat.lt_of_succ_lt_succ enough)
      rw [plainBreaks, run_bind_of_ok (run_peek c), peek_eq rest, if_pos (by decide),
        run_bind_of_ok (run_forward c), later, ← Cursor.skip_add, Nat.add_comm 1]

/-- Where a line ends at once, its line feed is passed over, and the next lines are looked at. -/
theorem run_plainSpaces_feed (rest : c.rest = '\n' :: tail) : plainSpaces.run c = StateT.run (do
    if (← get).atSeparator then return ([], true)
    else
      match ← plainBreaks (← left) with
      | none => return ([], true)
      | some rest => return (folded ['\n'] rest, true)) (c.skip 1) := by
  have nothing : (takeWhile (· == ' ')).run c = .ok ([], c) := takeWhile_run (t := []) rest (by simp) rfl
  rw [plainSpaces, run_bind_of_ok nothing, run_bind_of_ok (run_peek _), peek_eq rest, if_pos (by decide),
    run_bind_of_ok (run_lineBreak (b := '\n') rfl rest)]
  rfl

/-- Behind the line feed at the end of a line, the blanks of the next line are passed over. -/
theorem run_plainSpaces_line (starts : startsText tail = true)
    (rest : c.rest = '\n' :: (List.replicate k ' ' ++ tail)) :
    ∃ next, plainSpaces.run c = .ok ((next, true), c.skip (1 + k)) ∧ (0 < k → next = [' ']) := by
  have behind : (c.skip 1).rest = List.replicate k ' ' ++ tail := by
    rw [Cursor.rest_skip, rest]
    rfl
  rw [run_plainSpaces_feed rest, run_bind_of_ok (run_get _)]
  cases separator : (c.skip 1).atSeparator with
  | true =>
      -- A separator stands at the start of its line.
      have first : k = 0 := by
        cases k with
        | zero => rfl
        | succ k =>
            rw [atSeparator_eq_false (by decide) behind] at separator
            cases separator
      subst first
      exact ⟨[], rfl, fun some => absurd some (Nat.lt_irrefl 0)⟩
  | false =>
      have enough : k < (c.skip 1).rest.length + 1 := by
        simp only [behind, List.length_append, List.length_replicate]
        omega
      have blanks := run_plainBreaks starts behind enough
      refine ⟨[' '], ?_, fun _ => rfl⟩
      rw [if_neg Bool.false_ne_true, run_bind_of_ok (run_left _), run_bind_of_ok blanks, ← Cursor.skip_add]
      rfl

/-- How a plain scalar ends: at the colon of a key, or at the end of a line. -/
inductive Ending (indent : Int) (tail : List Char) : List Char → Bool → Nat → Prop where
  | colon (gap : isSpaceOrEnd (tail.headD '\x00') = true) : Ending indent tail (':' :: tail) false 0
  | line {k : Nat} (starts : startsText tail = true) (outside : (k : Int) < indent) :
      Ending indent tail ('\n' :: (List.replicate k ' ' ++ tail)) true (1 + k)

theorem run_plainSpaces_ending {indent : Int} {after : List Char} {crossed : Bool} {count : Nat}
    (ending : Ending indent tail after crossed count) (rest : c.rest = after) :
    ∃ next, plainSpaces.run c = .ok ((next, crossed), c.skip count) ∧
      (next.isEmpty = true ∨ (crossed = true ∧ ((c.skip count).mark.column : Int) < indent)) := by
  cases ending with
  | colon gap =>
      refine ⟨[], ?_, .inl rfl⟩
      have solid := run_plainSpaces_gap (n := 0) (x := ':') (by decide) rest
      exact solid
  | @line k starts outside =>
      obtain ⟨next, run, -⟩ := run_plainSpaces_line starts rest
      refine ⟨next, run, .inr ⟨rfl, ?_⟩⟩
      rw [Nat.add_comm, Cursor.mark_skip_line rest]
      exact outside

theorem Ending.ends {indent : Int} {after : List Char} {crossed : Bool} {count : Nat}
    (ending : Ending indent tail after crossed count) : endsHere after = true := by
  cases ending with
  | colon gap => simp_all [endsHere, endsPlain_eq]
  | line => rfl

theorem endsHere_append (start : isSpaceOrEnd (w.headD '\x00') = true) (ends : endsHere tail = true) :
    endsHere (w ++ tail) = true := by
  cases w with
  | nil => exact ends
  | cons x w =>
      have gap : isSpaceOrEnd x = true := start
      simp [endsHere, endsPlain_eq, gap]

theorem startsText_append (tail : List Char) (word : Word w) : startsText (w ++ tail) = true := by
  cases w with
  | nil => exact absurd rfl word.filled
  | cons x w =>
      obtain ⟨solid, steady, -⟩ := isLetter_iff.1 (word.letters x List.mem_cons_self)
      obtain ⟨-, noSpace, noBreak⟩ := solid_iff.1 solid
      have noComment : x ≠ '#' := by simpa using word.comment
      simp only [isSpace, Bool.or_eq_false_iff, beq_eq_false_iff_ne] at noSpace
      simp only [isSteady, Bool.and_eq_true, bne_iff_ne] at steady
      exact startsText_iff.2 ⟨noSpace.1, noComment, steady.2, noBreak⟩

theorem mark_behind_word (word : Word w) (rest : c.rest = w ++ tail) :
    (c.skip w.length).mark = ⟨c.mark.index + w.length, c.mark.line, c.mark.column + w.length⟩ :=
  Cursor.mark_skip_steady rest fun x member => (isLetter_iff.1 (word.letters x member)).2.1

/-- Behind a word, a gap that is no end leads on to the next word. -/
theorem run_plainWords_more {indent : Int} {v next : List Char} {crossed last : Bool} {place after : Cursor}
    (word : Word v) (rest : c.rest = v ++ tail) (ends : endsHere tail = true)
    (gap : plainSpaces.run (c.skip v.length) = .ok ((next, crossed), place)) (filled : next ≠ [])
    (deep : indent ≤ (place.mark.column : Int)) {u r : List Char} (further : Word u)
    (behind : place.rest = u ++ r) (closed : endsHere r = true)
    (go : (plainWords false indent fuel next).run place = .ok ((m, last), after)) :
    (plainWords false indent (fuel + 1) spaces).run c = .ok ((spaces ++ v ++ m, last), after) := by
  have here : plainWord false c.rest = v := by rw [rest, plainWord_append word ends]
  have there : plainWord false place.rest = u := by rw [behind, plainWord_append further closed]
  have noComment : (place.peek == '#') = false := by
    have text := (startsText_iff.1 (startsText_append r further)).2.1
    rw [← behind] at text
    exact beq_eq_false_iff_ne.2 text
  have goesOn : (next.isEmpty || place.peek == '#' || (!false && decide ((place.mark.column : Int) < indent))
      || (plainWord false place.rest).isEmpty) = false := by
    rw [noComment, there, decide_eq_false (Int.not_lt.2 deep)]
    simp [filled, further.filled]
  rw [plainWords, run_bind_of_ok (run_get c), here, run_bind_of_ok (run_skip _ _), run_bind_of_ok gap,
    run_bind_of_ok (run_get _), if_neg (by rw [goesOn]; exact Bool.false_ne_true), run_bind_of_ok go]
  rfl

theorem run_plainWords_last {indent : Int} {count : Nat} {after : List Char} {crossed : Bool} (word : Word w)
    (ending : Ending indent tail after crossed count) (rest : c.rest = w ++ after) :
    (plainWords false indent (fuel + 1) spaces).run c =
      .ok ((spaces ++ w, crossed), c.skip (w.length + count)) := by
  have here : plainWord false c.rest = w := by rw [rest, plainWord_append word ending.ends]
  obtain ⟨next, gap, stops⟩ := run_plainSpaces_ending ending (rest_behind rest)
  rw [plainWords, run_bind_of_ok (run_get c), here, run_bind_of_ok (run_skip _ _), run_bind_of_ok gap,
    run_bind_of_ok (run_get _), if_pos, Cursor.skip_add]
  · rfl
  · obtain nothing | ⟨-, outside⟩ := stops
    · simp [nothing]
    · simp [outside]

section

variable {indent : Int} {u v r : List Char} {column n k : Nat} {last : Bool}

/-- Blanks between two words are kept. -/
theorem run_plainWords_spaces (word : Word v) (further : Word u) (closed : endsHere r = true)
    (place : indent ≤ c.mark.column + 1) (rest : c.rest = v ++ (List.replicate (n + 1) ' ' ++ (u ++ r)))
    (later : ∀ {d : Cursor}, d.rest = u ++ r → indent ≤ (d.mark.column : Int) →
      (plainWords false indent fuel (List.replicate (n + 1) ' ')).run d = .ok ((m, last), d.skip k)) :
    (plainWords false indent (fuel + 1) spaces).run c =
      .ok ((spaces ++ v ++ m, last), c.skip (v.length + (n + 1 + k))) := by
  obtain ⟨x, u', same, solid⟩ := further.cons
  have blanks := run_plainSpaces_gap (c := c.skip v.length) solid (by rw [rest_behind rest, same]; rfl)
  have behind := Cursor.rest_skip_blanks (rest_behind rest)
  have deeper : indent ≤ (((c.skip v.length).skip (n + 1)).mark.column : Int) := by
    rw [Cursor.mark_skip_blanks (rest_behind rest), mark_behind_word word rest]
    dsimp only
    omega
  rw [run_plainWords_more word rest rfl blanks (by simp) deeper further behind closed (later behind deeper),
    ← Cursor.skip_add, ← Cursor.skip_add]

/-- The end of a line between two words is one blank. -/
theorem run_plainWords_fold (word : Word v) (further : Word u) (closed : endsHere r = true) (some : 0 < column)
    (deep : indent ≤ column) (rest : c.rest = v ++ '\n' :: (List.replicate column ' ' ++ (u ++ r)))
    (later : ∀ {d : Cursor}, d.rest = u ++ r → indent ≤ (d.mark.column : Int) →
      (plainWords false indent fuel [' ']).run d = .ok ((m, last), d.skip k)) :
    (plainWords false indent (fuel + 1) spaces).run c =
      .ok ((spaces ++ v ++ m, last), c.skip (v.length + (1 + column + k))) := by
  obtain ⟨next, gap, blank⟩ := run_plainSpaces_line (startsText_append r further) (rest_behind rest)
  obtain rfl := blank some
  have line := Cursor.mark_skip_line (rest_behind rest)
  rw [Nat.add_comm] at line
  have behind : ((c.skip v.length).skip (1 + column)).rest = u ++ r := by
    rw [Cursor.skip_add]
    exact Cursor.rest_skip_blanks (by rw [Cursor.rest_skip, rest_behind rest]; rfl)
  have deeper : indent ≤ (((c.skip v.length).skip (1 + column)).mark.column : Int) := by
    rw [line]
    exact deep
  rw [run_plainWords_more word rest rfl gap (by simp) deeper further behind closed (later behind deeper),
    ← Cursor.skip_add, ← Cursor.skip_add]

end

/-- A plain scalar is read as it is meant. -/
theorem run_plainWords {indent : Int} {column count : Nat} {after : List Char} {crossed : Bool}
    (meant : Plain lines column w m) (ending : Ending indent tail after crossed count) (some : 0 < column)
    (deep : indent ≤ column) (place : indent ≤ c.mark.column + 1) (rest : c.rest = w ++ after)
    (enough : w.length < fuel) :
    (plainWords false indent fuel spaces).run c =
      .ok ((spaces ++ m, crossed), c.skip (w.length + count)) := by
  induction meant generalizing c fuel spaces with
  | word word =>
      obtain ⟨more, rfl⟩ := Nat.exists_eq_add_one.2 (Nat.zero_lt_of_lt enough)
      exact run_plainWords_last word ending rest
  | @spaces v r m n word filled meant ih =>
      obtain ⟨more, rfl⟩ := Nat.exists_eq_add_one.2 (Nat.zero_lt_of_lt enough)
      obtain ⟨n, rfl⟩ := Nat.exists_eq_add_one.2 filled
      obtain ⟨u, r', -, further, rfl, -, closed, -⟩ := meant.first
      rw [run_plainWords_spaces word further (endsHere_append closed ending.ends) place (by simpa using rest)
        fun {d} behind deeper => ih (Int.le_add_one deeper) (by simpa using behind) (by simp at enough ⊢; omega)]
      simp [Nat.add_assoc]
  | @fold v r m _ word meant ih =>
      obtain ⟨more, rfl⟩ := Nat.exists_eq_add_one.2 (Nat.zero_lt_of_lt enough)
      obtain ⟨u, r', -, further, rfl, -, closed, -⟩ := meant.first
      rw [run_plainWords_fold word further (endsHere_append closed ending.ends) some deep (by simpa using rest)
        fun {d} behind deeper => ih (Int.le_add_one deeper) (by simpa using behind) (by simp at enough ⊢; omega)]
      simp [Nat.add_assoc, Nat.add_comm 1]

theorem run_plain {indent : Int} {column count : Nat} {after : List Char} {crossed : Bool}
    (meant : Plain lines column w m) (ending : Ending indent tail after crossed count) (some : 0 < column)
    (deep : indent ≤ column) (place : indent ≤ c.mark.column + 1) (rest : c.rest = w ++ after) :
    (plain false indent).run c =
      .ok ((.scalar (String.ofList m) true, crossed), c.skip (w.length + count)) := by
  have enough : w.length < c.rest.length + 1 := by
    rw [rest, List.length_append]
    omega
  have read : (plainWords false indent (c.rest.length + 1) []).run c = _ :=
    run_plainWords meant ending some deep place rest enough
  rw [plain, run_bind_of_ok (run_left c), run_bind_of_ok read]
  rfl

end Scan

end Triage.Yaml
