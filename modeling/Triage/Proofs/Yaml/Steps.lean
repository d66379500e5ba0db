import Mathlib.Data.List.InsertIdx
import Triage.Proofs.Yaml.Laid

/-!
# Steps of the token stream

Between two tokens a stream stands in front of the next text with no key pending. From there each indicator
is passed in one step and a key on one line in two; gaps are passed and collections are ended before the
next token is found.
-/

namespace Triage.Yaml.Stream

/-- A stream in front of some text: where it stands, the collections around it, the tokens so far, and
whether a key may follow. -/
structure Stands (s : Stream) (rest : List Char) (column : Nat) (indent : Int) (outer : List Int)
    (said : List Content) (allowed : Bool) : Prop where
  rest : s.cursor.rest = rest
  column : s.cursor.mark.column = column
  flow : s.flow = 0
  indent : s.indent = indent
  outer : s.outer = outer
  said : s.tokens.toList.map Token.content = said
  allowed : s.keyAllowed = allowed
  pending : s.pending = []
  unfinished : s.finished = false

/-- Steps lead from one stream to another, where a stream may be replaced by one with the same next step. -/
inductive Leads : Stream → Stream → Prop where
  | here (s : Stream) : Leads s s
  | step {s t z : Stream} (unfinished : s.finished = false) (found : s.step = .ok t)
      (shorter : t.cursor.rest.length < s.cursor.rest.length) (later : Leads t z) : Leads s z
  | alike {s t z : Stream} (unfinished : s.finished = false) (same : s.step = t.step)
      (shorter : t.cursor.rest.length ≤ s.cursor.rest.length) (later : Leads t z) : Leads s z

theorem Leads.trans {s t z : Stream} (first : Leads s t) (second : Leads t z) : Leads s z := by
  induction first with
  | here => exact second
  | step unfinished found shorter _ ih => exact .step unfinished found shorter (ih second)
  | alike unfinished same shorter _ ih => exact .alike unfinished same shorter (ih second)

/-- Where the last step is known, so are all tokens. -/
theorem Leads.run {s z last : Stream} (leads : Leads s z) (found : z.step = .ok last) (unfinished : z.finished = false)
    (finished : last.finished = true) :
    ∃ next, s.step = .ok next ∧ s.finished = false ∧
      ∀ fuel, s.cursor.rest.length < fuel → next.run fuel = (last.tokens.toList, none) := by
  induction leads with
  | here s =>
      refine ⟨last, found, unfinished, fun fuel enough => ?_⟩
      obtain ⟨more, rfl⟩ := Nat.exists_eq_add_one.2 (Nat.zero_lt_of_lt enough)
      rw [Stream.run, if_pos finished]
  | @step s t z open_ here shorter _ ih =>
      obtain ⟨next, there, open', later⟩ := ih found unfinished
      refine ⟨t, here, open_, fun fuel enough => ?_⟩
      obtain ⟨more, rfl⟩ := Nat.exists_eq_add_one.2 (Nat.zero_lt_of_lt enough)
      rw [Stream.run, open', if_neg Bool.false_ne_true, there]
      exact later more (by omega)
  | @alike s t z open_ same shorter _ ih =>
      obtain ⟨next, there, -, later⟩ := ih found unfinished
      exact ⟨next, same.trans there, open_, fun fuel enough => later fuel (Nat.lt_of_le_of_lt shorter enough)⟩

/-! ## Gaps -/

section

open Scan

variable {c : Cursor} {k : Nat} {tail : List Char}

theorem run_lineBreak_none (noBreak : isBreak c.peek = false) : lineBreak.run c = .ok ([], c) := by
  simp only [isBreak, Bool.or_eq_false_iff] at noBreak
  unfold lineBreak
  rw [run_bind_of_ok (run_get c)]
  simp [noBreak]
  rfl

theorem takeWhile_blanks (starts : startsText tail = true) :
    (List.replicate k ' ' ++ tail).takeWhile (· == ' ') = List.replicate k ' ' := by
  rw [List.takeWhile_append_of_pos (by simp)]
  obtain ⟨noBlank, -⟩ := startsText_iff.1 starts
  cases tail with
  | nil => simp
  | cons x tail => rw [List.takeWhile_cons_of_neg (by simpa using noBlank), List.append_nil]

theorem run_gap_text (starts : startsText tail = true) (rest : c.rest = List.replicate k ' ' ++ tail) :
    gap.run c = .ok (false, c.skip k) := by
  have skipped : (skipWhile (· == ' ')).run c = .ok ((), c.skip k) := by
    rw [run_skipWhile, rest, takeWhile_blanks starts, List.length_replicate]
  have here : (c.skip k).peek = tail.headD '\x00' := by rw [Cursor.peek, Cursor.rest_skip_blanks rest]
  obtain ⟨-, noComment, -, noBreak⟩ := startsText_iff.1 starts
  rw [gap, run_bind_of_ok skipped, run_bind_of_ok (run_peek _), here, if_neg (by simpa using noComment)]
  beta_reduce
  rw [run_bind_of_ok (run_lineBreak_none (by rw [here]; exact noBreak))]
  rfl

theorem run_gap_line (rest : c.rest = '\n' :: tail) : gap.run c = .ok (true, c.skip 1) := by
  have skipped : (skipWhile (· == ' ')).run c = .ok ((), c) := by
    rw [run_skipWhile, rest]
    rfl
  rw [gap, run_bind_of_ok skipped, run_bind_of_ok (run_peek _), peek_eq rest, if_neg (by decide)]
  beta_reduce
  rw [run_bind_of_ok (run_lineBreak (b := '\n') rfl rest)]
  rfl

end

variable {s : Stream} {k : Nat} {tail : List Char}

theorem go_text (starts : Scan.startsText tail = true) (rest : s.cursor.rest = List.replicate k ' ' ++ tail)
    (fuel : Nat) : skipGaps.go (fuel + 1) s = .ok { s with cursor := s.cursor.skip k } := by
  rw [skipGaps.go, run_gap_text starts rest]
  rfl

theorem skipGaps_text (starts : Scan.startsText tail = true) (rest : s.cursor.rest = List.replicate k ' ' ++ tail) :
    s.skipGaps = .ok { s with cursor := s.cursor.skip k } := by
  have noMark : (s.cursor.peek == '\uFEFF') = false := by
    rw [Cursor.peek, rest]
    cases k with
    | zero => exact beq_eq_false_iff_ne.2 (Scan.startsText_iff.1 starts).2.2.1
    | succ k => rfl
  rw [skipGaps, noMark, Bool.and_false, if_neg Bool.false_ne_true]
  exact go_text starts rest _

theorem skipGaps_line (starts : Scan.startsText tail = true) (block : s.flow = 0)
    (rest : s.cursor.rest = Yaml.gap k ++ tail) :
    s.skipGaps = .ok { s with cursor := s.cursor.skip (k + 1), keyAllowed := true } := by
  have noMark : (s.cursor.peek == '\uFEFF') = false := by
    rw [Cursor.peek, rest]
    rfl
  have behind : (s.cursor.skip 1).rest = List.replicate k ' ' ++ tail := by
    rw [Cursor.rest_skip, rest]
    rfl
  have inBlock : s.inBlock = true := by rw [Stream.inBlock, block]; rfl
  rw [skipGaps, noMark, Bool.and_false, if_neg Bool.false_ne_true]
  have length : s.cursor.rest.length = (k + tail.length) + 1 := by simp [rest, Yaml.gap]
  rw [length, skipGaps.go, run_gap_line rest]
  have later := go_text (s := { s with cursor := s.cursor.skip 1, keyAllowed := s.keyAllowed || s.inBlock }) starts
    behind (k + tail.length)
  refine later.trans ?_
  rw [inBlock, Bool.or_true, Nat.add_comm k 1, Cursor.skip_add]

/-! ## Approaching the next text -/

theorem dropStale_of_loose (loose : ∀ entry ∈ s.pending, entry.2.required = false) :
    s.dropStale = .ok { s with pending := s.pending.filter fun entry => !s.isStale entry.2 } := by
  have none : (s.pending.any fun entry => s.isStale entry.2 && entry.2.required) = false := by
    rw [List.any_eq_false]
    intro entry member
    simp [loose entry member]
  rw [dropStale, none, if_neg Bool.false_ne_true]

/-- Without a key that has to be one, keys are only dropped. -/
theorem exists_dropStale (loose : ∀ entry ∈ s.pending, entry.2.required = false) :
    ∃ kept, (∀ entry ∈ kept, entry ∈ s.pending) ∧ s.dropStale = .ok { s with pending := kept } :=
  ⟨_, fun _ member => (List.mem_filter.1 member).1, dropStale_of_loose loose⟩

/-- Keys from earlier lines are no longer pending. -/
theorem dropStale_line (loose : ∀ entry ∈ s.pending, entry.2.required = false)
    (above : ∀ entry ∈ s.pending, entry.2.mark.line < s.cursor.mark.line) :
    s.dropStale = .ok { s with pending := [] } := by
  have none : s.pending.filter (fun entry => !s.isStale entry.2) = [] := by
    rw [List.filter_eq_nil_iff]
    intro entry member
    have other : entry.2.mark.line ≠ s.mark.line := Nat.ne_of_lt (above entry member)
    simp [isStale, other]
  rw [dropStale_of_loose loose, none]

theorem exists_approach (starts : Scan.startsText tail = true) (rest : s.cursor.rest = tail)
    (loose : ∀ entry ∈ s.pending, entry.2.required = false) :
    ∃ kept, (∀ entry ∈ kept, entry ∈ s.pending) ∧ s.approach = .ok { s with pending := kept } := by
  rw [Stream.approach, skipGaps_text (k := 0) starts rest]
  exact exists_dropStale loose

theorem approach_text (starts : Scan.startsText tail = true) (rest : s.cursor.rest = List.replicate k ' ' ++ tail)
    (none : s.pending = []) : s.approach = .ok { s with cursor := s.cursor.skip k } := by
  rw [Stream.approach, skipGaps_text starts rest]
  refine (dropStale_line (s := { s with cursor := s.cursor.skip k }) ?_ ?_).trans ?_
  · simp [none]
  · simp [none]
  · rw [none]

/-- Behind a scalar that has passed over the end of its line no key is pending. -/
theorem approach_crossed (starts : Scan.startsText tail = true) (rest : s.cursor.rest = tail)
    (loose : ∀ entry ∈ s.pending, entry.2.required = false)
    (above : ∀ entry ∈ s.pending, entry.2.mark.line < s.cursor.mark.line) :
    s.approach = .ok { s with pending := [] } := by
  rw [Stream.approach, skipGaps_text (k := 0) starts rest]
  exact dropStale_line loose above

/-- On the next line no key is pending. -/
theorem approach_line (starts : Scan.startsText tail = true) (block : s.flow = 0)
    (rest : s.cursor.rest = Yaml.gap k ++ tail) (loose : ∀ entry ∈ s.pending, entry.2.required = false)
    (above : ∀ entry ∈ s.pending, entry.2.mark.line ≤ s.cursor.mark.line) :
    s.approach = .ok { s with cursor := s.cursor.skip (k + 1), keyAllowed := true, pending := [] } := by
  rw [Stream.approach, skipGaps_line starts block rest]
  refine dropStale_line (s := { s with cursor := s.cursor.skip (k + 1), keyAllowed := true }) loose ?_
  intro entry member
  rw [Cursor.mark_skip_line rest]
  exact Nat.lt_succ_of_le (above entry member)

/-- A stream may be replaced by the one that has come to the next text. -/
theorem leads_of_approach {v : Stream} (unfinished : s.finished = false) (found : s.approach = .ok v)
    (self : v.approach = .ok v) (shorter : v.cursor.rest.length ≤ s.cursor.rest.length) : Leads s v := by
  refine .alike unfinished ?_ shorter (.here v)
  rw [step, fetch, found, step, fetch, self]

variable {t : List Char} {column : Nat} {indent : Int} {outer : List Int} {said : List Content} {allowed : Bool}

theorem Stands.approach (stands : s.Stands t column indent outer said allowed) (starts : Scan.startsText t = true) :
    s.approach = .ok s :=
  approach_text (k := 0) starts stands.rest stands.pending

theorem Stands.blank (stands : s.Stands (' ' :: t) column indent outer said allowed)
    (starts : Scan.startsText t = true) :
    ∃ v, Leads s v ∧ v.Stands t (column + 1) indent outer said allowed := by
  have found := approach_text (k := 1) starts stands.rest stands.pending
  have place := Cursor.mark_skip_blanks (k := 1) stands.rest
  have there : ({ s with cursor := s.cursor.skip 1 } : Stream).Stands t (column + 1) indent outer said allowed :=
    { stands with
      rest := Cursor.rest_skip_blanks (k := 1) stands.rest
      column := by rw [place, stands.column] }
  refine ⟨_, leads_of_approach stands.unfinished found (there.approach starts) ?_, there⟩
  rw [there.rest, stands.rest]
  exact Nat.le_succ _

/-- Keys that need not be keys are left behind at the end of their line. -/
theorem leads_line
    (stands : ({ s with pending := [] } : Stream).Stands (Yaml.gap k ++ t) column indent outer said allowed)
    (starts : Scan.startsText t = true) (loose : ∀ entry ∈ s.pending, entry.2.required = false)
    (above : ∀ entry ∈ s.pending, entry.2.mark.line ≤ s.cursor.mark.line) :
    ∃ v, Leads s v ∧ v.Stands t k indent outer said true := by
  have found := approach_line (s := s) starts stands.flow stands.rest loose above
  have place := Cursor.mark_skip_line stands.rest
  have rest : (s.cursor.skip (k + 1)).rest = t := Cursor.rest_skip_line stands.rest
  have there : ({ s with cursor := s.cursor.skip (k + 1), keyAllowed := true, pending := [] } : Stream).Stands
      t k indent outer said true :=
    { stands with
      rest := rest
      column := by rw [place]
      allowed := rfl
      pending := rfl }
  have whole : s.cursor.rest = Yaml.gap k ++ t := stands.rest
  refine ⟨_, leads_of_approach stands.unfinished found (there.approach starts) ?_, there⟩
  rw [there.rest, whole, List.length_append]
  exact Nat.le_add_left _ _

/-- So they are where the line is over already. -/
theorem leads_crossed (stands : ({ s with pending := [] } : Stream).Stands t column indent outer said allowed)
    (starts : Scan.startsText t = true) (loose : ∀ entry ∈ s.pending, entry.2.required = false)
    (above : ∀ entry ∈ s.pending, entry.2.mark.line < s.cursor.mark.line) : Leads s { s with pending := [] } :=
  leads_of_approach stands.unfinished (approach_crossed starts stands.rest loose above) (stands.approach starts)
    (Nat.le_refl _)

theorem Stands.line (stands : s.Stands (Yaml.gap k ++ t) column indent outer said allowed)
    (starts : Scan.startsText t = true) : ∃ v, Leads s v ∧ v.Stands t k indent outer said true :=
  leads_line { stands with pending := rfl } starts (by simp [stands.pending]) (by simp [stands.pending])

/-! ## Ending collections -/

theorem unwind_inside {column : Int} (inside : s.indent ≤ column) : s.unwind column = s := by
  rw [unwind]
  split
  · unfold unwind.close
    split
    · rfl
    · exact if_neg (Int.not_lt.2 inside)
  · rfl

/-- A collection to the right of the next text may be ended at once. -/
theorem Stands.close {i j : Int} {o : List Int} (stands : s.Stands t column i (j :: o) said allowed)
    (starts : Scan.startsText t = true) (outside : (column : Int) < i) :
    ∃ v, Leads s v ∧ v.Stands t column j o (said ++ [.blockEnd]) allowed := by
  have there : ({ s.push .blockEnd with indent := j, outer := o } : Stream).Stands t column j o
      (said ++ [.blockEnd]) allowed :=
    { stands with
      indent := rfl
      outer := rfl
      said := by simp [push, stands.said] }
  refine ⟨{ s.push .blockEnd with indent := j, outer := o },
    .alike (t := { s.push .blockEnd with indent := j, outer := o }) stands.unfinished ?_ (Nat.le_refl _) (.here _),
    there⟩
  have same : s.unwind s.column = ({ s.push .blockEnd with indent := j, outer := o } : Stream).unwind s.column := by
    have block : s.inBlock = true := by rw [inBlock, stands.flow]; rfl
    have block' : ({ s.push .blockEnd with indent := j, outer := o } : Stream).inBlock = true := block
    rw [unwind, if_pos block, unwind, if_pos block', stands.outer, unwind.close, if_pos]
    rw [stands.indent]
    exact_mod_cast stands.column ▸ outside
  rw [step, fetch, stands.approach starts, step, fetch, there.approach starts]
  exact congrArg (fun u : Stream => u.dispatch >>= dropStale) same

/-! ## One token -/

theorem Stands.step (stands : s.Stands t column indent outer said allowed) (starts : Scan.startsText t = true)
    (inside : indent ≤ column) {r : Stream} (found : s.dispatch = .ok r) : s.step = r.dropStale := by
  have here : s.unwind s.column = s := unwind_inside (by rw [stands.indent, Stream.column, stands.column]; exact inside)
  rw [Stream.step, fetch, stands.approach starts]
  exact congrArg (· >>= dropStale) ((congrArg dispatch here).trans found)

/-- A token that leaves no key pending. -/
theorem Stands.token (stands : s.Stands t column indent outer said allowed) (starts : Scan.startsText t = true)
    (inside : indent ≤ column) {r : Stream} (found : s.dispatch = .ok r) {rest : List Char} {place : Nat} {i : Int}
    {o : List Int} {more : List Content} {allowed' : Bool} (there : r.Stands rest place i o more allowed')
    (shorter : rest.length < t.length) : Leads s r := by
  refine .step stands.unfinished (t := r) ?_ (by rw [there.rest, stands.rest]; exact shorter) (.here r)
  rw [stands.step starts inside found, dropStale_line (by simp [there.pending]) (by simp [there.pending]),
    ← there.pending]

/-- The collections around an indicator, where the column may start one. -/
def around (indent : Int) (outer : List Int) (column : Nat) : List Int :=
  if indent < column then indent :: outer else outer

/-- The token that starts a collection, where the column does. -/
def opening (indent : Int) (column : Nat) (start : Content) : List Content :=
  if indent < column then [start] else []

theorem around_same (column : Nat) (outer : List Int) : around column outer column = outer :=
  if_neg (Int.lt_irrefl _)

theorem opening_same (column : Nat) (start : Content) : opening column column start = [] :=
  if_neg (Int.lt_irrefl _)

theorem around_right (right : indent < column) : around indent outer column = indent :: outer := if_pos right

theorem opening_right (right : indent < column) (start : Content) :
    opening indent column start = [start] :=
  if_pos right

/-- Opening a collection at the column of an indicator. -/
theorem Stands.openBlock (stands : s.Stands t column indent outer said allowed) (inside : indent ≤ column)
    (start : Content) :
    (s.openBlock start).Stands t column column (around indent outer column)
      (said ++ opening indent column start) allowed := by
  rw [Stream.openBlock, indentTo, around, opening, stands.indent, Stream.column, stands.column]
  split
  · rename_i deeper found
    split at found
    · cases found
      rename_i right
      rw [if_pos right, if_pos right]
      exact { stands with
        indent := rfl
        outer := by rw [← stands.outer]; rfl
        said := by simp [push, stands.said] }
    · cases found
  · rename_i found
    split at found
    · cases found
    · rename_i notRight
      have same : indent = column := by omega
      rw [if_neg notRight, if_neg notRight, List.append_nil, ← same]
      exact stands

/-! ## Indicators -/

theorem Stands.allow (stands : s.Stands t column indent outer said allowed) (now : Bool) :
    ({ s with keyAllowed := now } : Stream).Stands t column indent outer said now :=
  { stands with allowed := rfl }

theorem Stands.dropKey (stands : s.Stands t column indent outer said allowed) : s.dropKey = .ok s := by
  obtain ⟨cursor, tokens, flow, indent, outer, keyAllowed, pending, finished⟩ := s
  obtain rfl := stands.pending
  rfl

theorem Stands.take {x : Char} (stands : s.Stands (x :: t) column indent outer said allowed)
    (steady : isSteady x = true) (content : Content) :
    (s.take content 1).Stands t (column + 1) indent outer (said ++ [content]) allowed := by
  have rest : s.cursor.rest = [x] ++ t := stands.rest
  have place := Cursor.mark_skip_steady rest (by simpa using steady)
  exact { stands with
    rest := by rw [Stream.take, Cursor.rest_skip, stands.rest]; rfl
    column := by rw [← stands.column]; exact congrArg Mark.column place
    said := by simp [Stream.take, stands.said] }

theorem Stands.inBlock (stands : s.Stands t column indent outer said allowed) : s.inBlock = true := by
  rw [Stream.inBlock, stands.flow]
  rfl

theorem dispatch_entry (rest : s.cursor.rest = '-' :: ' ' :: t) : s.dispatch = s.blockEntry := by
  simp [dispatch, Cursor.peek, Cursor.peekAt, Cursor.atIndicator, rest, isSpaceOrEnd, isGapOrEnd]

theorem dispatch_key (rest : s.cursor.rest = '?' :: ' ' :: t) : s.dispatch = s.key := by
  simp [dispatch, Cursor.peek, Cursor.peekAt, Cursor.atIndicator, rest, isSpaceOrEnd, isGapOrEnd]

theorem dispatch_value {x : Char} (gap : isSpaceOrEnd x = true) (rest : s.cursor.rest = ':' :: x :: t) :
    s.dispatch = s.value := by
  simp [dispatch, Cursor.peek, Cursor.peekAt, Cursor.atIndicator, rest, gap]

/-- A dash starts an item, and a list where it stands to the right of what is around it. -/
theorem Stands.entry (stands : s.Stands ('-' :: ' ' :: t) column indent outer said true) (inside : indent ≤ column) :
    ∃ r, Leads s r ∧ r.Stands (' ' :: t) (column + 1) column (around indent outer column)
      (said ++ opening indent column .blockSequenceStart ++ [.blockEntry]) true := by
  have opened := (stands.openBlock inside .blockSequenceStart).allow true
  have found : s.dispatch =
      .ok (({ s.openBlock .blockSequenceStart with keyAllowed := true } : Stream).take .blockEntry 1) := by
    rw [dispatch_entry stands.rest, blockEntry, stands.inBlock, stands.allowed, if_neg (by decide), if_pos rfl]
    dsimp only
    rw [opened.dropKey]
    rfl
  have there := opened.take (by decide) .blockEntry
  exact ⟨_, stands.token rfl inside found there (by simp), there⟩

/-- A question mark starts an entry. -/
theorem Stands.key (stands : s.Stands ('?' :: ' ' :: t) column indent outer said true) (inside : indent ≤ column) :
    ∃ r, Leads s r ∧ r.Stands (' ' :: t) (column + 1) column (around indent outer column)
      (said ++ opening indent column .blockMappingStart ++ [.key]) true := by
  have opened := stands.openBlock inside .blockMappingStart
  have found : s.dispatch =
      .ok (({ s.openBlock .blockMappingStart with keyAllowed := true } : Stream).take .key 1) := by
    rw [dispatch_key stands.rest, Stream.key, stands.inBlock, stands.allowed, if_neg (by decide), if_pos rfl]
    dsimp only
    rw [opened.inBlock, (opened.allow true).dropKey]
    rfl
  have there := (opened.allow true).take (by decide) .key
  exact ⟨_, stands.token rfl inside found there (by simp), there⟩

/-- A colon at the start of a line leads to the value of the key above. -/
theorem Stands.value (stands : s.Stands (':' :: ' ' :: t) column column outer said true) :
    ∃ r, Leads s r ∧ r.Stands (' ' :: t) (column + 1) column outer (said ++ [.value]) true := by
  have opened := stands.openBlock (Int.le_refl _) .blockMappingStart
  rw [around_same, opening_same, List.append_nil] at opened
  have found : s.dispatch =
      .ok (({ s.openBlock .blockMappingStart with keyAllowed := true } : Stream).take .value 1) := by
    rw [dispatch_value (by decide) stands.rest, Stream.value, stands.pending]
    simp only [List.lookup_nil]
    rw [stands.inBlock, stands.allowed, if_neg (by decide), if_pos rfl, opened.inBlock, (opened.allow true).dropKey]
    rfl
  have there := (opened.allow true).take (by decide) .value
  exact ⟨_, stands.token rfl (Int.le_refl _) found there (by simp), there⟩

/-! ## Scalars -/

theorem dispatch_single (rest : s.cursor.rest = '\'' :: t) : s.dispatch = s.candidate (Scan.quoted false) := by
  simp [dispatch, Cursor.peek, Cursor.atIndicator, rest]

theorem dispatch_double (rest : s.cursor.rest = '"' :: t) : s.dispatch = s.candidate (Scan.quoted true) := by
  simp [dispatch, Cursor.peek, Cursor.atIndicator, rest]

/-- A word that neither starts with three marks nor ends in front of one is no line of marks. -/
theorem atIndicator_eq_false {c : Cursor} {m x : Char} {v u : List Char} (rest : c.rest = x :: v ++ u)
    (apart : [m, m, m].isPrefixOf (x :: v) = false) (other : u.headD '\x00' ≠ m) : c.atIndicator m = false := by
  have behind : ¬u.head?.getD '\x00' = m := by simpa using other
  rw [Cursor.atIndicator, Scan.peek_eq rest]
  cases v with
  | nil => simp [Cursor.peekAt, rest, ← List.head?_eq_getElem?, behind]
  | cons y v =>
      cases v with
      | nil => simp [Cursor.peekAt, rest, ← List.head?_eq_getElem?, behind]
      | cons z v =>
          simp only [List.isPrefixOf, Bool.and_true] at apart
          simp [Cursor.peekAt, rest]
          grind

theorem dispatch_plain {v u : List Char} (rest : s.cursor.rest = v ++ u) (word : Word v) (bare : isBare v = true)
    (behind : u.headD '\x00' ≠ '-' ∧ u.headD '\x00' ≠ '.') (block : s.inBlock = true) : s.dispatch = s.plain := by
  obtain ⟨x, v', rfl, solid⟩ := word.cons
  have here : s.cursor.peek = x := Scan.peek_eq rest
  simp only [isBare, Bool.not_eq_true', Bool.or_eq_false_iff, List.headD_cons] at bare
  obtain ⟨⟨⟨mark, alone⟩, dashes⟩, dots⟩ := bare
  have gapNext : "?-:".toList.contains x = true → isSpaceOrEnd (s.cursor.peekAt 1) = false := by
    intro member
    cases v' with
    | nil =>
        rw [member] at alone
        cases alone
    | cons y v' =>
        rw [Cursor.peekAt, rest]
        exact isSpaceOrEnd_of_solid (isLetter_iff.1 (word.letters y (by simp))).1
  have gap := isSpaceOrEnd_of_solid solid
  have noEnd := (Scan.solid_iff.1 solid).1
  unfold dispatch
  simp only [here, atIndicator_eq_false (m := '-') rest dashes behind.1,
    atIndicator_eq_false (m := '.') rest dots behind.2, block]
  by_cases special : x = '-' ∨ x = '?' ∨ x = ':'
  · have next := gapNext (by obtain rfl | rfl | rfl := special <;> decide)
    have starts : s.startsPlain = true := by
      rw [startsPlain, here, next, block]
      obtain rfl | rfl | rfl := special <;> rfl
    rw [next, starts]
    obtain rfl | rfl | rfl := special <;> simp
  · have starts : s.startsPlain = true := by
      simp only [startsPlain, here, gap]
      simp_all
    rw [starts]
    simp_all

/-- The key that a scalar may turn out to be. -/
def candidateKey (s : Stream) : List (Int × PendingKey) :=
  if s.keyAllowed then [(s.flow, ⟨s.tokens.size, s.inBlock && s.indent == s.column, s.mark⟩)] else []

theorem Stands.saveKey (stands : s.Stands t column indent outer said allowed) :
    s.saveKey = .ok { s with pending := s.candidateKey } := by
  rw [Stream.saveKey, candidateKey]
  split
  · rw [stands.dropKey]
    change Except.ok { s with pending := s.pending ++ _ } = _
    rw [stands.pending]
    rfl
  · rw [← stands.pending]
    rfl

/-- The stream behind a scalar. -/
def behind (s : Stream) (content : Content) (length : Nat) (crossed : Bool) : Stream :=
  { s with
    cursor := s.cursor.skip length
    tokens := s.tokens.push ⟨content, s.mark, (s.cursor.skip length).mark⟩
    keyAllowed := crossed
    pending := s.candidateKey }

theorem Stands.candidate (stands : s.Stands t column indent outer said allowed) {scan : Scan Content}
    {content : Content} {length : Nat} (run : scan.run s.cursor = .ok (content, s.cursor.skip length)) :
    s.candidate scan = .ok (s.behind content length false) := by
  rw [Stream.candidate, stands.saveKey]
  change ({ s with pending := s.candidateKey, keyAllowed := false } : Stream).read scan = _
  rw [Stream.read, run]
  rfl

theorem Stands.plain (stands : s.Stands t column indent outer said allowed) {content : Content} {length : Nat}
    {crossed : Bool}
    (run : (Scan.plain false (indent + 1)).run s.cursor = .ok ((content, crossed), s.cursor.skip length)) :
    s.plain = .ok (s.behind content length crossed) := by
  have scanned : (Scan.plain (!s.inBlock) (s.indent + 1)).run s.cursor =
      .ok ((content, crossed), s.cursor.skip length) := by
    rw [stands.inBlock, Bool.not_true, stands.indent]
    exact run
  rw [Stream.plain, stands.saveKey]
  exact congrArg (Except.map fun read : (Content × Bool) × Cursor => { s with
    cursor := read.2
    tokens := s.tokens.push ⟨read.1.1, s.mark, read.2.mark⟩
    keyAllowed := read.1.2
    pending := s.candidateKey }) scanned

variable {w after : List Char} {content : Content} {lines : Bool} {place count : Nat} {crossed : Bool}

/-- A scalar is read up to what ends it; a plain one passes over the end of its line. -/
theorem Stands.dispatch_scalar (stands : s.Stands (w ++ after) column indent outer said allowed)
    (text : ScalarText lines place w content) (some : 0 < place) (deeper : indent < place)
    (inside : indent ≤ column) (ending : Scan.Ending (indent + 1) tail after crossed count) :
    s.dispatch = .ok (s.behind content w.length false) ∨
      s.dispatch = .ok (s.behind content (w.length + count) crossed) := by
  cases text with
  | @plain w m meant bare =>
      right
      have run := Scan.run_plain meant ending some (by omega)
        (by rw [stands.column]; omega) stands.rest
      obtain ⟨v, r, -, word, rfl, -, gap, -⟩ := meant.first
      rw [firstWord_append word gap] at bare
      have follows : (r ++ after).headD '\x00' ≠ '-' ∧ (r ++ after).headD '\x00' ≠ '.' := by
        cases r with
        | nil => cases ending <;> simp
        | cons y r => constructor <;> rintro rfl <;> cases gap
      rw [dispatch_plain (by rw [stands.rest, List.append_assoc]) word bare follows stands.inBlock, stands.plain run]
  | @single w m meant =>
      left
      have rest : s.cursor.rest = '\'' :: (w ++ '\'' :: after) := by simpa using stands.rest
      have run := Scan.run_quoted_single meant rest (by cases ending <;> simp)
      rw [dispatch_single rest, stands.candidate run]
      simp
  | @double w m meant =>
      left
      have rest : s.cursor.rest = '"' :: (w ++ '"' :: after) := by simpa using stands.rest
      rw [dispatch_double rest, stands.candidate (Scan.run_quoted_double meant rest)]
      simp

theorem candidateKey_loose (required : s.indent ≠ s.column) : ∀ entry ∈ s.candidateKey, entry.2.required = false := by
  intro entry member
  rw [candidateKey] at member
  split at member
  · obtain rfl := List.mem_singleton.1 member
    simp [required]
  · cases member

/-- To the right of its collection a scalar need not be a key. -/
theorem Stands.loose (stands : s.Stands t column indent outer said allowed) (inside : indent < column) :
    s.indent ≠ s.column := by
  rw [stands.indent, Stream.column, stands.column]
  exact Int.ne_of_lt inside

theorem candidateKey_mark : ∀ entry ∈ s.candidateKey, entry.2.mark = s.mark := by
  intro entry member
  rw [candidateKey] at member
  split at member
  · obtain rfl := List.mem_singleton.1 member
    rfl
  · cases member

/-- A scalar leads behind itself, where it may still be a key. -/
theorem Stands.passed (stands : s.Stands (w ++ t) column indent outer said allowed)
    (starts : Scan.startsText (w ++ t) = true) (filled : w ≠ []) (inside : indent < column) {length : Nat}
    (found : s.dispatch = .ok (s.behind content length crossed)) (within : w.length ≤ length) :
    ∃ kept, (∀ entry ∈ kept, entry ∈ s.candidateKey) ∧
      Leads s { s.behind content length crossed with pending := kept } := by
  obtain ⟨kept, among, dropped⟩ := exists_dropStale (s := s.behind content length crossed)
    (candidateKey_loose (stands.loose inside))
  refine ⟨kept, among, .step stands.unfinished ((stands.step starts (Int.le_of_lt inside) found).trans dropped) ?_
    (.here _)⟩
  have some : 0 < w.length := List.length_pos_iff.2 filled
  change (s.cursor.skip length).rest.length < _
  rw [Cursor.rest_skip, List.length_drop, stands.rest, List.length_append]
  omega

/-- Without its key the stream behind a scalar stands in front of what follows. -/
theorem Stands.behind_scalar (stands : s.Stands (w ++ t) column indent outer said allowed) {length : Nat}
    {rest : List Char} (gone : (s.cursor.skip length).rest = rest) (content : Content) (crossed : Bool) :
    ({ s.behind content length crossed with pending := [] } : Stream).Stands rest (s.cursor.skip length).mark.column
      indent outer (said ++ [content]) crossed :=
  { stands with
    rest := gone
    column := rfl
    said := by simp [Stream.behind, stands.said]
    allowed := rfl
    pending := rfl }

/-- A scalar at the end of its line is passed together with the gap behind it. -/
theorem Stands.scalar (stands : s.Stands (w ++ (Yaml.gap k ++ tail)) column indent outer said allowed)
    (text : ScalarText lines place w content) (some : 0 < place) (deeper : indent < place) (inside : indent < column)
    (starts : Scan.startsText tail = true) (outside : (k : Int) ≤ indent) :
    ∃ v, Leads s v ∧ v.Stands tail k indent outer (said ++ [content]) true := by
  have loose := candidateKey_loose (stands.loose inside)
  have gone : (s.cursor.skip w.length).rest = Yaml.gap k ++ tail := Scan.rest_behind stands.rest
  have ending : Scan.Ending (indent + 1) tail (Yaml.gap k ++ tail) true (1 + k) := .line starts (by omega)
  -- a plain scalar has the gap read with it, a quoted one leaves it to the next step
  obtain found | found := stands.dispatch_scalar text some deeper (Int.le_of_lt inside) ending
  · obtain ⟨kept, among, leads⟩ := stands.passed text.startsText text.filled inside found (Nat.le_refl _)
    obtain ⟨v, onwards, there⟩ := leads_line (s := { s.behind content w.length false with pending := kept })
      (stands.behind_scalar gone content false) starts (fun entry member => loose entry (among entry member))
      fun entry member => by
        rw [candidateKey_mark entry (among entry member)]
        exact s.cursor.line_le_skip w.length
    exact ⟨v, leads.trans onwards, there⟩
  · obtain ⟨kept, among, leads⟩ := stands.passed text.startsText text.filled inside found (Nat.le_add_right _ _)
    have same : s.cursor.skip (w.length + (1 + k)) = (s.cursor.skip w.length).skip (k + 1) := by
      rw [Nat.add_comm 1 k, Cursor.skip_add]
    have rest : (s.cursor.skip (w.length + (1 + k))).rest = tail := by
      rw [same]
      exact Cursor.rest_skip_line gone
    have mark := Cursor.mark_skip_line gone
    rw [← same] at mark
    have there := stands.behind_scalar rest content true
    rw [mark] at there
    refine ⟨_, leads.trans (leads_crossed (s := { s.behind content (w.length + (1 + k)) true with pending := kept })
      there starts (fun entry member => loose entry (among entry member)) fun entry member => ?_), there⟩
    rw [candidateKey_mark entry (among entry member)]
    change s.cursor.mark.line < (s.cursor.skip (w.length + (1 + k))).mark.line
    rw [mark]
    exact Nat.lt_succ_of_le (s.cursor.line_le_skip w.length)

/-! ## Empty collections -/

theorem dropKey_other (other : ∀ entry ∈ s.pending, entry.1 ≠ s.flow) : s.dropKey = .ok s := by
  have none : (s.pending.any fun entry => entry.1 == s.flow && entry.2.required) = false := by
    rw [List.any_eq_false]
    intro entry member
    simp [other entry member]
  have all : s.pending.filter (fun entry => entry.1 != s.flow) = s.pending :=
    List.filter_eq_self.2 fun entry member => by simpa using other entry member
  rw [Stream.dropKey, none, if_neg Bool.false_ne_true, all]

theorem candidateKey_depth : ∀ entry ∈ s.candidateKey, entry.1 = s.flow := by
  intro entry member
  rw [candidateKey] at member
  split at member
  · obtain rfl := List.mem_singleton.1 member
    rfl
  · cases member

/-- The stream behind the first of two brackets. -/
def opened (s : Stream) (start : Content) (kept : List (Int × PendingKey)) : Stream :=
  { ({ s with flow := s.flow + 1, keyAllowed := true } : Stream).take start 1 with pending := kept }

/-- The stream behind the second of two brackets. -/
def closed (s : Stream) (stop : Content) (kept : List (Int × PendingKey)) : Stream :=
  { ({ s with flow := s.flow - 1, keyAllowed := false } : Stream).take stop 1 with pending := kept }

theorem Stands.step_opening {x : Char} {a : Content} (stands : s.Stands (x :: t) column indent outer said allowed)
    (opens : ∀ {s : Stream} {t : List Char}, s.cursor.rest = x :: t → s.dispatch = s.flowStart a)
    (starts : Scan.startsText (x :: t) = true) (inside : indent < column) :
    ∃ kept, (∀ entry ∈ kept, entry ∈ s.candidateKey) ∧ s.step = .ok (s.opened a kept) := by
  have found : s.dispatch = .ok (s.opened a s.candidateKey) := by
    rw [opens stands.rest, flowStart, stands.saveKey]
    rfl
  obtain ⟨kept, among, dropped⟩ :=
    exists_dropStale (s := s.opened a s.candidateKey) (candidateKey_loose (stands.loose inside))
  exact ⟨kept, among, (stands.step starts (Int.le_of_lt inside) found).trans dropped⟩

theorem step_closing {y : Char} {b : Content} (rest : s.cursor.rest = y :: tail)
    (starts : Scan.startsText (y :: tail) = true)
    (closes : ∀ {s : Stream} {t : List Char}, s.cursor.rest = y :: t → s.dispatch = s.flowEnd b)
    (loose : ∀ entry ∈ s.pending, entry.2.required = false) (outside : ∀ entry ∈ s.pending, entry.1 ≠ s.flow)
    (nested : s.flow ≠ 0) : ∃ kept, (∀ entry ∈ kept, entry ∈ s.pending) ∧ s.step = .ok (s.closed b kept) := by
  obtain ⟨kept, among, found⟩ := exists_approach starts rest loose
  have inFlow : ({ s with pending := kept } : Stream).inBlock = false := by
    simpa [Stream.inBlock] using nested
  have closed : ({ s with pending := kept } : Stream).dispatch = .ok (s.closed b kept) := by
    rw [closes (s := { s with pending := kept }) rest, flowEnd]
    rw [dropKey_other (s := { s with pending := kept }) fun entry member => outside entry (among entry member)]
    rfl
  obtain ⟨last, among', dropped⟩ := exists_dropStale (s := s.closed b kept)
    fun entry member => loose entry (among entry member)
  refine ⟨last, fun entry member => among entry (among' entry member), ?_⟩
  rw [Stream.step, fetch, found]
  change (({ s with pending := kept } : Stream).unwind _).dispatch >>= dropStale = _
  rw [unwind, if_neg (by rw [inFlow]; exact Bool.false_ne_true), closed]
  exact dropped

/-- Without pending keys the stream behind both brackets stands in front of what follows. -/
theorem Stands.behind_brackets {u : List Char} (stands : s.Stands t column indent outer said allowed) (a b : Content)
    (kept last : List (Int × PendingKey)) (gone : ((s.opened a kept).closed b last).cursor.rest = u) :
    ({ (s.opened a kept).closed b last with pending := [] } : Stream).Stands u
      ((s.opened a kept).closed b last).cursor.mark.column indent outer (said ++ [a, b]) false :=
  { stands with
    rest := gone
    column := rfl
    flow := (Int.add_sub_cancel s.flow 1).trans stands.flow
    said := by simp [Stream.opened, Stream.closed, Stream.take, stands.said]
    allowed := rfl
    pending := rfl }

/-- A pair of brackets is passed together with the gap behind it. -/
theorem Stands.brackets {x y : Char} {a b : Content}
    (stands : s.Stands (x :: y :: (Yaml.gap k ++ tail)) column indent outer said allowed)
    (opens : ∀ {s : Stream} {t : List Char}, s.cursor.rest = x :: t → s.dispatch = s.flowStart a)
    (closes : ∀ {s : Stream} {t : List Char}, s.cursor.rest = y :: t → s.dispatch = s.flowEnd b)
    (first : ∀ t, Scan.startsText (x :: t) = true) (second : ∀ t, Scan.startsText (y :: t) = true)
    (inside : indent < column) (starts : Scan.startsText tail = true) :
    ∃ v, Leads s v ∧ v.Stands tail k indent outer (said ++ [a, b]) true := by
  have loose := candidateKey_loose (stands.loose inside)
  obtain ⟨kept, among, opened⟩ := stands.step_opening opens (first _) inside
  have behind : (s.opened a kept).cursor.rest = y :: (Yaml.gap k ++ tail) := Scan.rest_behind (t := [x]) stands.rest
  -- a key in front of the brackets belongs to the block around them
  have outside : ∀ entry ∈ kept, entry.1 ≠ s.flow + 1 := fun entry member => by
    rw [candidateKey_depth entry (among entry member)]
    exact Int.ne_of_lt (Int.lt_succ s.flow)
  have nested : s.flow + 1 ≠ 0 := by
    rw [stands.flow]
    decide
  obtain ⟨last, among', closed⟩ := step_closing behind (second _) closes
    (fun entry member => loose entry (among entry member)) outside nested
  have gone : ((s.opened a kept).closed b last).cursor.rest = Yaml.gap k ++ tail :=
    Scan.rest_behind (t := [y]) behind
  obtain ⟨v, onwards, there⟩ := leads_line (stands.behind_brackets a b kept last gone) starts
    (fun entry member => loose entry (among entry (among' entry member))) fun entry member => by
      rw [candidateKey_mark entry (among entry (among' entry member))]
      exact Nat.le_trans (s.cursor.line_le_skip 1) ((s.cursor.skip 1).line_le_skip 1)
  refine ⟨v, .step stands.unfinished opened ?_ (.step stands.unfinished closed ?_ onwards), there⟩
  · rw [behind, stands.rest]
    exact Nat.lt_succ_self _
  · rw [gone, behind]
    exact Nat.lt_succ_self _

/-! ## Keys on one line -/

theorem insertIdx_behind {α : Type} (before after : List α) (x : α) :
    (before ++ after).insertIdx before.length x = before ++ x :: after := by
  induction before with
  | nil => rfl
  | cons y before ih => exact congrArg (y :: ·) ih

/-- Inserting a token in front of those behind a place. -/
theorem said_insert {tokens : Array Token} {more : List Content}
    (whole : tokens.toList.map Token.content = said ++ more)
    (token : Token) :
    (tokens.insertIdxIfInBounds said.length token).toList.map Token.content = said ++ token.content :: more := by
  have within : said.length ≤ tokens.size := by
    have length := congrArg List.length whole
    simp at length
    omega
  rw [Array.insertIdxIfInBounds, dif_pos within, Array.toList_insertIdx, List.map_insertIdx, whole, insertIdx_behind]

theorem length_said (stands : s.Stands t column indent outer said allowed) : s.tokens.size = said.length := by
  rw [← stands.said, List.length_map, Array.length_toList]

theorem dropStale_fresh {entry : Int × PendingKey} (alone : s.pending = [entry]) (fresh : s.isStale entry.2 = false) :
    s.dropStale = .ok s := by
  obtain ⟨cursor, tokens, flow, indent, outer, keyAllowed, pending, finished⟩ := s
  obtain rfl : pending = [entry] := alone
  rw [dropStale]
  simp [fresh]

/-- Where the last token turns out to be a key, the marks of a key and perhaps of a mapping come before it. -/
theorem confirmKey_stands {content : Content} {key : PendingKey} {at_ : Nat} (rest : s.cursor.rest = t)
    (column_ : s.cursor.mark.column = at_)
    (flow : s.flow = 0) (indent_ : s.indent = indent) (outer_ : s.outer = outer)
    (said_ : s.tokens.toList.map Token.content = said ++ [content]) (alone : s.pending = [(0, key)])
    (unfinished : s.finished = false) (place : key.place = said.length) (inside : indent ≤ column)
    (mark : key.mark.column = column) :
    (s.confirmKey key).Stands t at_ column (around indent outer column)
      (said ++ opening indent column .blockMappingStart ++ [.key, content]) false := by
  have block : s.inBlock = true := by rw [Stream.inBlock, flow]; rfl
  have keyed := said_insert said_ ⟨.key, key.mark, key.mark⟩
  have none : s.pending.filter (fun entry => entry.1 != s.flow) = [] := by
    rw [alone, flow]
    rfl
  have standing : ({ s with
      pending := s.pending.filter fun entry => entry.1 != s.flow
      tokens := s.tokens.insertIdxIfInBounds key.place ⟨.key, key.mark, key.mark⟩
      keyAllowed := false } : Stream).Stands t at_ indent outer (said ++ [.key, content]) false :=
    { rest := rest, column := column_, flow := flow, indent := indent_, outer := outer_
      said := by rw [place]; exact keyed
      allowed := rfl, pending := none, unfinished := unfinished }
  have opened : ∀ {u : Stream}, u.Stands t at_ indent outer (said ++ [.key, content]) false →
      u.indentTo key.mark.column =
        if indent < column then some { u with indent := column, outer := indent :: outer } else Option.none := by
    intro u there
    rw [indentTo, mark, there.indent, there.outer]
  rw [Stream.confirmKey, if_pos]
  · rw [opened standing, around, opening]
    -- only to the right of what is around it does the key start a mapping
    by_cases right : indent < column
    · rw [if_pos right, if_pos right, if_pos right]
      exact { standing with
        indent := rfl
        outer := rfl
        said := by
          rw [List.append_assoc]
          exact place ▸ said_insert standing.said ⟨.blockMappingStart, key.mark, key.mark⟩ }
    · have same : indent = column := by omega
      rw [if_neg right, if_neg right, if_neg right, List.append_nil, ← same]
      exact standing
  · exact block

/-- A colon confirms the key in front of it while the key is pending. -/
theorem step_colon {x : Char} {key : PendingKey} (rest : s.cursor.rest = ':' :: x :: t) (gap : isSpaceOrEnd x = true)
    (alone : s.pending = [(s.flow, key)]) (fresh : s.isStale key = false) (inside : s.indent ≤ s.column)
    (nothing : (s.confirmKey key).pending = []) : s.step = .ok ((s.confirmKey key).take .value 1) := by
  have waits : s.approach = .ok s := by
    rw [Stream.approach, skipGaps_text (k := 0) rfl rest]
    exact dropStale_fresh alone fresh
  have lookup : s.pending.lookup s.flow = Option.some key := by rw [alone, List.lookup_cons_self]
  have confirmed : s.dispatch = .ok ((s.confirmKey key).take .value 1) := by
    rw [dispatch_value gap rest, Stream.value, lookup]
    rfl
  rw [Stream.step, fetch, waits]
  refine (congrArg (fun u : Stream => u.dispatch >>= dropStale) (unwind_inside inside)).trans ?_
  have none : ((s.confirmKey key).take .value 1).pending = [] := nothing
  rw [confirmed]
  refine (dropStale_line (by simp [none]) (by simp [none])).trans ?_
  rw [← none]

/-- A scalar on one line is read and stays pending as a key. -/
theorem Stands.step_key {x : Char} (stands : s.Stands (w ++ ':' :: x :: t) column indent outer said true)
    (text : ScalarText false place w content) (some : 0 < place) (deeper : indent < place) (inside : indent ≤ column)
    (gap : isSpaceOrEnd x = true) (short : w.length ≤ 1024) :
    ∃ key : PendingKey, key.place = said.length ∧ key.mark = s.mark ∧
      (s.behind content w.length false).pending = [(0, key)] ∧
      (s.behind content w.length false).isStale key = false ∧ s.step = .ok (s.behind content w.length false) := by
  have found : s.dispatch = .ok (s.behind content w.length false) := by
    obtain found | found := stands.dispatch_scalar text some deeper inside (.colon gap)
    · exact found
    · exact found
  let key : PendingKey := ⟨said.length, s.inBlock && s.indent == s.column, s.mark⟩
  have pending : (s.behind content w.length false).pending = [(0, key)] := by
    change s.candidateKey = _
    rw [candidateKey, stands.allowed, if_pos rfl, stands.flow, length_said stands]
  have fresh : (s.behind content w.length false).isStale key = false := by
    have here : (s.behind content w.length false).mark = (s.cursor.skip w.length).mark := rfl
    rw [isStale, here, Cursor.mark_skip_steady stands.rest text.steady]
    simpa [key, Stream.mark] using short
  exact ⟨key, rfl, rfl, pending, fresh,
    (stands.step text.startsText inside found).trans (dropStale_fresh pending fresh)⟩

/-- A key on one line is confirmed by the colon behind it. -/
theorem Stands.simpleKey {x : Char} (stands : s.Stands (w ++ ':' :: x :: t) column indent outer said true)
    (text : ScalarText false place w content) (some : 0 < place) (deeper : indent < place) (inside : indent ≤ column)
    (gap : isSpaceOrEnd x = true) (short : w.length ≤ 1024) :
    ∃ r, Leads s r ∧ r.Stands (x :: t) (column + w.length + 1) column (around indent outer column)
      (said ++ opening indent column .blockMappingStart ++ [.key, content, .value]) false := by
  obtain ⟨key, number, mark, pending, fresh, first⟩ := stands.step_key text some deeper inside gap short
  have gone : (s.cursor.skip w.length).rest = ':' :: x :: t := Scan.rest_behind stands.rest
  have place : (s.cursor.skip w.length).mark.column = column + w.length := by
    rw [Cursor.mark_skip_steady stands.rest text.steady, stands.column]
  have saidBefore : (s.behind content w.length false).tokens.toList.map Token.content = said ++ [content] := by
    simp [behind, stands.said]
  have keyed := confirmKey_stands (s := s.behind content w.length false) gone place stands.flow stands.indent
    stands.outer saidBefore pending stands.unfinished number inside (mark ▸ stands.column)
  have there := keyed.take (by decide) .value
  rw [List.append_assoc _ [Content.key, content]] at there
  have alone : (s.behind content w.length false).pending = [(s.flow, key)] := stands.flow ▸ pending
  have deep : (s.behind content w.length false).indent ≤ (s.behind content w.length false).column := by
    change s.indent ≤ ((s.cursor.skip w.length).mark.column : Int)
    rw [place, stands.indent]
    push_cast
    omega
  have second := step_colon gone gap alone fresh deep keyed.pending
  have filled : 0 < w.length := List.length_pos_iff.2 text.filled
  refine ⟨_, .step stands.unfinished first ?_ (.step stands.unfinished second ?_ (.here _)), there⟩
  · change (s.cursor.skip w.length).rest.length < _
    rw [gone, stands.rest, List.length_append]
    omega
  · rw [there.rest]
    change _ < (s.cursor.skip w.length).rest.length
    rw [gone]
    exact Nat.lt_succ_self _

end Triage.Yaml.Stream
