import Triage.Proofs.Yaml.Pen

/-!
# How values are laid out

The characters of a value are described by the shape of the value: every item stands behind a dash of its
own, every key in front of a colon or behind a question mark, and what is nested starts on the same line or
further to the right on the next. The writer keeps to the description.
-/

namespace Triage.Yaml

/-! ## Keys -/

/-- The characters of a key that stands on one line. -/
def keyText (key : Data) : List Char :=
  let (tag, text) := scalarForm key
  match Style.choose (Tag.ofForm text == tag) true text.toList with
  | .plain => text.toList
  | .single => '\'' :: (Pen.quoteMarks text.toList ++ ['\''])
  | .double => '"' :: (text.toList.flatMap (fun c => (Pen.escape? c).getD [c]) ++ ['"'])

namespace Pen

variable {p q : Pen} {cs ds : List Char}

theorem Adds.unique (first : Adds p q cs) (second : Adds p q ds) : cs = ds := by
  rw [Adds] at *
  exact List.reverse_injective (List.append_cancel_right (first.symm.trans second))

theorem plainRuns_one_line (rs : List (List Char)) (column : Nat) (p : Pen) :
    Adds p (rs.foldl (fun p run => if p.folds false run then (p.indent column).solid else p.put run) p) rs.flatten := by
  induction rs generalizing p with
  | nil => exact .refl p
  | cons run rs ih =>
      rw [List.foldl_cons, if_neg (by simp [folds])]
      exact (adds_put p run).trans (ih _)

theorem quoteMarks_append (cs ds : List Char) : quoteMarks (cs ++ ds) = quoteMarks cs ++ quoteMarks ds :=
  List.flatMap_append

theorem singleRuns_one_line {rs : List (List Char)} (oneLine : ∀ run ∈ rs, Run.of (run.headD ' ') ≠ .breaks)
    (clean : Clean rs) (column : Nat) (first : Bool) (p : Pen) :
    Adds p (singleRuns column false first rs p) (quoteMarks rs.flatten) := by
  induction clean generalizing first p with
  | done => exact .refl p
  | @spaces n rs next rest ih =>
      have later := ih (fun run member => oneLine run (List.mem_cons_of_mem _ member)) false
        (p.put (List.replicate (n + 1) ' '))
      have blank : Run.of ((List.replicate (n + 1) ' ').headD ' ') = .space := rfl
      have kept : quoteMarks (List.replicate (n + 1) ' ') = List.replicate (n + 1) ' ' := by
        simp [quoteMarks, List.flatMap_replicate]
      rw [List.flatten_cons, quoteMarks_append, kept]
      simp only [singleRuns, blank, folds, Bool.false_and, Bool.and_false, Bool.false_eq_true, if_false]
      exact (adds_put p _).trans later
  | @breaks b bs rs all next rest ih =>
      exact absurd (of_eq_breaks.2 (all b List.mem_cons_self)) (oneLine (b :: bs) List.mem_cons_self)
  | @word c cs rs letters rest ih =>
      have later := ih (fun run member => oneLine run (List.mem_cons_of_mem _ member)) false
        (p.put (quoteMarks (c :: cs)))
      have kind := of_eq_other (letters c List.mem_cons_self)
      rw [List.flatten_cons, quoteMarks_append]
      simp only [singleRuns, List.headD_cons, kind]
      exact (adds_put p _).trans later

theorem doubleChars_one_line (column : Nat) (first : Bool) (held cs : List Char) (p : Pen) :
    Adds p (doubleChars column false first held cs p)
      (held.reverse ++ cs.flatMap fun c => (escape? c).getD [c]) := by
  induction cs generalizing first held p with
  | nil =>
      rw [List.flatMap_nil, List.append_nil]
      exact adds_put p held.reverse
  | cons c rest ih =>
      cases escaped : escape? c with
      | some e =>
          simp only [doubleChars, escaped, Bool.false_and, Bool.false_eq_true, if_false]
          simpa [escaped] using (adds_put p held.reverse).trans ((adds_put _ e).trans (ih false [] _))
      | none =>
          simp only [doubleChars, escaped, Bool.false_and, Bool.false_eq_true, if_false]
          simpa [escaped] using ih false (c :: held) p

end Pen

theorem writeScalar_key (column : Option Nat) (key : Data) (p : Pen) :
    p.Adds (writeScalar column true key p) (p.apart ++ keyText key) := by
  rw [writeScalar, keyText]
  simp only
  cases style : Style.choose (Tag.ofForm (scalarForm key).2 == (scalarForm key).1) true (scalarForm key).2.toList with
  | plain =>
      have filled := scalarForm_filled (Style.choose_eq_plain style).1
      have start : p.Adds (if p.open_ then p else p.put [' ']).solid p.apart := by
        rw [Pen.apart]
        split
        · exact .refl p
        · exact Pen.adds_put p [' ']
      have added := start.trans (Pen.plainRuns_one_line (Pen.runs (scalarForm key).2.toList) (column.elim 2 (· + 2)) _)
      rw [Pen.runs, List.flatten_splitBy] at added
      change p.Adds (p.plain _ _ _) _
      rw [Pen.plain, if_neg (by simpa using filled)]
      exact added
  | single =>
      obtain ⟨allowed, breaking⟩ := Style.choose_eq_single style
      have oneLine : ∀ run ∈ Pen.runs (scalarForm key).2.toList, Pen.Run.of (run.headD ' ') ≠ .breaks :=
        fun run member line => absurd (breaking (Pen.isMultiline_of_run member line)) (by decide)
      have added := (p.indicator_adds ['\''] false false).trans
        ((Pen.singleRuns_one_line oneLine (Pen.clean_runs allowed) (column.elim 2 (· + 2)) true _).trans
          (Pen.indicator_adds_close _ ['\''] false false))
      rw [Pen.runs, List.flatten_splitBy, List.append_assoc] at added
      exact added
  | double =>
      have added := (p.indicator_adds ['"'] false false).trans
        ((Pen.doubleChars_one_line (column.elim 2 (· + 2)) true [] (scalarForm key).2.toList _).trans
          (Pen.indicator_adds_close _ ['"'] false false))
      rw [List.append_assoc] at added
      exact added

/-! ## Values -/

namespace Data

/-- A value on its own. -/
def isScalar : Data → Bool
  | .null | .bool _ | .int _ | .float _ | .text _ => true
  | _ => false

end Data

/-- Values of lists and of mappings with distinct text keys, with a bound on the levels of nesting. -/
inductive Outline : Nat → Data → Prop where
  | scalar {n : Nat} {d : Data} (alone : Data.isScalar d = true) : Outline n d
  | list {n : Nat} {items : List Data} (each : ∀ item ∈ items, Outline n item) : Outline (n + 1) (.list items)
  | record {n : Nat} {fields : List (String × Data)} (distinct : (fields.map Prod.fst).Nodup)
      (each : ∀ field ∈ fields, Outline n field.2) : Outline (n + 1) (.record fields)

/-- A line feed with the blanks up to a column. -/
def gap (column : Nat) : List Char := '\n' :: List.replicate column ' '

/-- A key with its marks; the flag says that it stands in front of its colon on one line. -/
inductive Keyed (column : Nat) (key : Data) : Bool → List Char → Prop where
  | simple (simple : isSimpleKey key = true)
      (text : ScalarText false (column + 2) (keyText key) (scalarToken true key)) :
      Keyed column key true (keyText key ++ [':'])
  | explicit {w : List Char} (long : isSimpleKey key = false)
      (text : ScalarText true (column + 2) w (scalarToken false key)) :
      Keyed column key false ('?' :: ' ' :: (w ++ (gap column ++ [':'])))

/-- What is laid out: a value behind an indicator, perhaps behind that of a key on one line, or the items or
entries of a collection. -/
inductive Part where
  | value (after : Bool) (d : Data)
  | items (ds : List Data)
  | entries (es : List (Data × Data))

/-- The characters of a part of a collection at a column. -/
inductive Laid : Nat → Part → List Char → Prop where
  | scalar {column : Nat} {after : Bool} {d : Data} {w : List Char} (alone : Data.isScalar d = true)
      (text : ScalarText true (column + 2) w (scalarToken false d)) : Laid column (.value after d) (' ' :: w)
  | noItems {column : Nat} {after : Bool} : Laid column (.value after (.list [])) [' ', '[', ']']
  | noEntries {column : Nat} {after : Bool} : Laid column (.value after (.map [])) [' ', '\x7b', '\x7d']
  | list {column : Nat} {after : Bool} {d : Data} {ds : List Data} {t : List Char}
      (items : Laid (if after then column else column + 2) (.items (d :: ds)) t) :
      Laid column (.value after (.list (d :: ds))) ((if after then gap column else [' ']) ++ t)
  | map {column : Nat} {after : Bool} {e : Data × Data} {es : List (Data × Data)} {t : List Char}
      (entries : Laid (column + 2) (.entries (e :: es)) t) :
      Laid column (.value after (.map (e :: es))) ((if after then gap (column + 2) else [' ']) ++ t)
  | lastItem {column : Nat} {d : Data} {t : List Char} (value : Laid column (.value false d) t) :
      Laid column (.items [d]) ('-' :: t)
  | items {column : Nat} {d next : Data} {ds : List Data} {t r : List Char}
      (value : Laid column (.value false d) t) (rest : Laid column (.items (next :: ds)) r) :
      Laid column (.items (d :: next :: ds)) ('-' :: (t ++ (gap column ++ r)))
  | lastEntry {column : Nat} {after : Bool} {k v : Data} {w t : List Char} (key : Keyed column k after w)
      (value : Laid column (.value after v) t) : Laid column (.entries [(k, v)]) (w ++ t)
  | entries {column : Nat} {after : Bool} {k v : Data} {next : Data × Data} {es : List (Data × Data)}
      {w t r : List Char} (key : Keyed column k after w) (value : Laid column (.value after v) t)
      (rest : Laid column (.entries (next :: es)) r) :
      Laid column (.entries ((k, v) :: next :: es)) (w ++ (t ++ (gap column ++ r)))

theorem acceptable_gap (column : Nat) : ∀ c ∈ gap column, isAcceptable c = true := by
  intro c member
  obtain rfl | blank := List.mem_cons.1 member
  · rfl
  · obtain rfl := List.eq_of_mem_replicate blank
    rfl

theorem Keyed.acceptable {column : Nat} {key : Data} {after : Bool} {w : List Char} (keyed : Keyed column key after w) :
    ∀ c ∈ w, isAcceptable c = true := by
  have colon : isAcceptable ':' = true := rfl
  have mark : isAcceptable '?' = true := rfl
  have blank : isAcceptable ' ' = true := rfl
  cases keyed with
  | simple _ text => simpa [or_imp, forall_and, colon] using text.acceptable
  | explicit _ text =>
      simpa [or_imp, forall_and, colon, mark, blank] using ⟨text.acceptable, acceptable_gap column⟩

/-- All characters that are laid out may stand in a document. -/
theorem Laid.acceptable {column : Nat} {part : Part} {t : List Char} (laid : Laid column part t) :
    ∀ c ∈ t, isAcceptable c = true := by
  have blank : isAcceptable ' ' = true := rfl
  have dash : isAcceptable '-' = true := rfl
  induction laid with
  | scalar _ text => simpa [or_imp, forall_and, blank] using text.acceptable
  | noItems => exact List.all_eq_true.1 rfl
  | noEntries => exact List.all_eq_true.1 rfl
  | @list column after d ds t _ ih =>
      cases after with
      | true => simpa [or_imp, forall_and] using ⟨acceptable_gap column, ih⟩
      | false => simpa [or_imp, forall_and, blank] using ih
  | @map column after e es t _ ih =>
      cases after with
      | true => simpa [or_imp, forall_and] using ⟨acceptable_gap (column + 2), ih⟩
      | false => simpa [or_imp, forall_and, blank] using ih
  | lastItem _ ih => simpa [or_imp, forall_and, dash] using ih
  | @items column d next ds t r _ _ first rest =>
      simpa [or_imp, forall_and, dash] using ⟨first, acceptable_gap column, rest⟩
  | lastEntry key _ ih => simpa [or_imp, forall_and] using ⟨key.acceptable, ih⟩
  | @entries column after k v next es w t r key _ _ first rest =>
      simpa [or_imp, forall_and] using ⟨key.acceptable, first, acceptable_gap column, rest⟩

namespace Pen

/-- A pen behind an indicator: behind that of a key on one line nothing else fits on the line but a scalar. -/
structure Ready (after : Bool) (column : Nat) (p : Pen) : Prop where
  shut : p.open_ = false
  fresh : p.fresh = !after
  place : after = false → p.column = column + 1

/-- A pen at the start of an item or an entry. -/
structure Begins (column : Nat) (p : Pen) : Prop where
  open_ : p.open_ = true
  fresh : p.fresh = true
  place : p.column = column

variable {after : Bool} {column levels : Nat} {p q : Pen}

theorem begins_line (full : p.Full column) : (p.indent column).Begins column := by
  rw [indent_full full]
  exact ⟨rfl, rfl, rfl⟩

/-- What is nested starts on the line of its indicator, or on the next. -/
theorem Ready.indent (ready : p.Ready after column) (place : Nat) (deeper : after = false → place = column + 2) :
    p.Adds (p.indent place) (if after then gap place else [' ']) ∧ (p.indent place).Begins place := by
  cases after with
  | true => exact ⟨adds_indent (.inl ready.fresh), begins_line (.inl ready.fresh)⟩
  | false =>
      obtain rfl := deeper rfl
      have before : p.column < column + 2 := by rw [ready.place rfl]; omega
      rw [indent_ready ready.fresh before, ready.place rfl]
      refine ⟨?_, ⟨rfl, rfl, rfl⟩⟩
      rw [Adds, show column + 2 - (column + 1) = 1 by omega]
      rfl

/-- Writing a value behind an indicator lays it out. -/
def Lays (levels : Nat) (d : Data) : Prop :=
  ∀ {column : Nat} {after inMapping : Bool} {p : Pen}, p.Ready after column → (after = true → inMapping = true) →
    column + 2 * levels + 2 < lineWidth →
    ∃ t, p.Adds (writeNode (some column) inMapping d p) t ∧ (writeNode (some column) inMapping d p).Tight ∧
      Laid column (.value after d) t

theorem Begins.indicator (begins : p.Begins column) (c : Char) :
    p.Adds (p.indicator [c] true false true) [c] ∧ (p.indicator [c] true false true).Ready false column := by
  have added := p.indicator_adds [c] false true
  rw [apart, begins.open_] at added
  refine ⟨added, rfl, ?_, fun _ => ?_⟩
  · simp [Pen.indicator, put, begins.fresh]
  · simp [Pen.indicator, put, begins.open_, begins.place]

theorem writeItems_adds {d : Data} {ds : List Data} (each : ∀ item ∈ d :: ds, Lays levels item)
    (begins : (p.indent column).Begins column) (narrow : column + 2 * levels + 2 < lineWidth) :
    ∃ t, (p.indent column).Adds (writeItems column (d :: ds) p) t ∧ (writeItems column (d :: ds) p).Tight ∧
      Laid column (.items (d :: ds)) t := by
  induction ds generalizing d p with
  | nil =>
      obtain ⟨dash, ready⟩ := begins.indicator '-'
      obtain ⟨t, added, tight, laid⟩ := each d List.mem_cons_self ready (by simp) narrow
      exact ⟨_, dash.trans added, tight, .lastItem laid⟩
  | cons next ds ih =>
      obtain ⟨dash, ready⟩ := begins.indicator '-'
      obtain ⟨t, added, tight, laid⟩ := each d List.mem_cons_self ready (by simp) narrow
      obtain ⟨r, later, tight', laid'⟩ := ih (fun item member => each item (List.mem_cons_of_mem _ member))
        (begins_line (.inl tight.fresh))
      exact ⟨_, dash.trans (added.trans ((adds_indent (.inl tight.fresh)).trans later)), tight', .items laid laid'⟩

theorem writeKey_adds (key : Data) (begins : (p.indent column).Begins column) (narrow : column + 2 < lineWidth) :
    ∃ w q, (p.indent column).Adds q w ∧ q.Ready (isSimpleKey key) column ∧ Keyed column key (isSimpleKey key) w ∧
      ∀ (value : Data) (rest : List (Data × Data)), writeEntries column ((key, value) :: rest) p =
        writeEntries column rest (writeNode (some column) true value q) := by
  cases simple : isSimpleKey key with
  | true =>
      obtain ⟨w, added, tight, text⟩ := writeScalar_adds narrow true key (p.indent column)
      have written := writeScalar_key (some column) key (p.indent column)
      obtain rfl := List.append_cancel_left (written.unique added)
      rw [apart, begins.open_] at written
      refine ⟨_, (writeScalar (some column) true key (p.indent column)).indicator [':'] false false false,
        written.trans (indicator_adds_close _ [':'] false false), ⟨rfl, Bool.and_false _, by simp⟩,
        .simple simple text, fun value rest => ?_⟩
      rw [writeEntries]
      simp only [simple, if_true]
  | false =>
      obtain ⟨mark, ready⟩ := begins.indicator '?'
      obtain ⟨w, added, tight, text⟩ :=
        writeScalar_adds narrow false key ((p.indent column).indicator ['?'] true false true)
      obtain ⟨colon, ready'⟩ := (begins_line (.inl tight.fresh)).indicator ':'
      rw [apart, ready.shut] at added
      refine ⟨_, _, mark.trans (added.trans ((adds_indent (.inl tight.fresh)).trans colon)), ready',
        by simpa [gap] using Keyed.explicit simple text, fun value rest => ?_⟩
      rw [writeEntries]
      simp only [simple, Bool.false_eq_true, if_false]

theorem writeEntries_adds {e : Data × Data} {es : List (Data × Data)} (each : ∀ entry ∈ e :: es, Lays levels entry.2)
    (begins : (p.indent column).Begins column) (narrow : column + 2 * levels + 2 < lineWidth) :
    ∃ t, (p.indent column).Adds (writeEntries column (e :: es) p) t ∧ (writeEntries column (e :: es) p).Tight ∧
      Laid column (.entries (e :: es)) t := by
  induction es generalizing e p with
  | nil =>
      obtain ⟨w, q, key, ready, keyed, whole⟩ := writeKey_adds e.1 begins (by omega)
      obtain ⟨t, added, tight, laid⟩ := each e List.mem_cons_self ready (fun _ => rfl) narrow
      rw [whole e.2 []]
      exact ⟨_, key.trans added, tight, .lastEntry keyed laid⟩
  | cons next es ih =>
      obtain ⟨w, q, key, ready, keyed, whole⟩ := writeKey_adds e.1 begins (by omega)
      obtain ⟨t, added, tight, laid⟩ := each e List.mem_cons_self ready (fun _ => rfl) narrow
      obtain ⟨r, later, tight', laid'⟩ := ih (fun entry member => each entry (List.mem_cons_of_mem _ member))
        (begins_line (.inl tight.fresh))
      rw [whole e.2 (next :: es)]
      exact ⟨_, key.trans (added.trans ((adds_indent (.inl tight.fresh)).trans later)), tight',
        .entries keyed laid laid'⟩

theorem lays_fields {f : String × Data} {fs : List (String × Data)} (each : ∀ field ∈ f :: fs, Lays levels field.2) :
    ∀ entry ∈ (Data.text f.1, f.2) :: fs.map (fun field => (Data.text field.1, field.2)), Lays levels entry.2 := by
  intro entry member
  rw [← List.map_cons (f := fun field : String × Data => (Data.text field.1, field.2))] at member
  obtain ⟨field, among, rfl⟩ := List.mem_map.1 member
  exact each field among

theorem lays_scalar {d : Data} (alone : Data.isScalar d = true) : Lays levels d := by
  intro column after inMapping p ready _ narrow
  have same : writeNode (some column) inMapping d p = writeScalar (some column) false d p := by
    cases d <;> first | rfl | cases alone
  have fits : column + 2 < lineWidth := by omega
  obtain ⟨w, added, tight, text⟩ := writeScalar_adds fits false d p
  rw [apart, ready.shut] at added
  rw [same]
  exact ⟨_, added, tight, .scalar alone text⟩

/-- In a mapping the dashes stand below the key. -/
theorem lays_list {items : List Data} (each : ∀ item ∈ items, Lays levels item) : Lays (levels + 1) (.list items) := by
  intro column after inMapping p ready mapped narrow
  cases items with
  | nil =>
      have added := (p.indicator_adds ['['] true false).trans (indicator_adds_close _ [']'] false false)
      rw [apart, ready.shut] at added
      exact ⟨_, added, ⟨Bool.and_false _, rfl⟩, .noItems⟩
  | cons d ds =>
      have place : (if inMapping && !p.fresh then column else column + 2) =
          if after then column else column + 2 := by
        rw [ready.fresh]
        cases after with
        | false => simp
        | true => simp [mapped rfl]
      obtain ⟨lead, begins⟩ := ready.indent (if after then column else column + 2) (by simp +contextual)
      obtain ⟨t, added, tight, laid⟩ := writeItems_adds each begins (by split <;> omega)
      have whole : writeNode (some column) inMapping (.list (d :: ds)) p =
          writeItems (if after then column else column + 2) (d :: ds) p := by
        rw [writeNode, ← place]
        rfl
      rw [whole]
      refine ⟨_, lead.trans added, tight, ?_⟩
      cases after <;> exact .list laid

theorem lays_record {fields : List (String × Data)} (each : ∀ field ∈ fields, Lays levels field.2) :
    Lays (levels + 1) (.record fields) := by
  intro column after inMapping p ready _ narrow
  cases fields with
  | nil =>
      have added := (p.indicator_adds ['\x7b'] true false).trans (indicator_adds_close _ ['\x7d'] false false)
      rw [apart, ready.shut] at added
      exact ⟨_, added, ⟨Bool.and_false _, rfl⟩, .noEntries⟩
  | cons f fs =>
      obtain ⟨lead, begins⟩ := ready.indent (column + 2) (fun _ => rfl)
      obtain ⟨t, added, tight, laid⟩ := writeEntries_adds (lays_fields each) begins (by omega)
      exact ⟨_, lead.trans added, tight, .map laid⟩

theorem lays {d : Data} (outline : Outline levels d) : Lays levels d := by
  induction outline with
  | scalar alone => exact lays_scalar alone
  | list _ ih => exact lays_list ih
  | record _ _ ih => exact lays_record ih

end Pen

/-- The document of a mapping that is not empty. -/
theorem layout_record {levels : Nat} {f : String × Data} {fs : List (String × Data)}
    (each : ∀ field ∈ f :: fs, Outline levels field.2) (narrow : 2 * levels + 2 < lineWidth) :
    ∃ t, layout (.record (f :: fs)) = String.ofList (t ++ ['\n']) ∧
      Laid 0 (.entries ((f :: fs).map fun field => (.text field.1, field.2))) t := by
  have begins : (Pen.start.indent 0).Begins 0 := ⟨rfl, rfl, rfl⟩
  obtain ⟨t, added, tight, laid⟩ := Pen.writeEntries_adds
    (Pen.lays_fields fun field member => Pen.lays (each field member)) begins (by omega)
  have line := @Pen.adds_indent 0 _ (.inl tight.fresh)
  have whole := added.trans line
  refine ⟨t, ?_, laid⟩
  have written : ((writeNode none false (.record (f :: fs)) .start).indent 0).written = (t ++ ['\n']).reverse :=
    Eq.trans (b := (t ++ ['\n']).reverse ++ []) whole (List.append_nil _)
  rw [layout, Pen.text, written, List.reverse_reverse]

end Triage.Yaml
