import Triage.Proofs.Yaml.Meaning

/-!
# What is read as it was written

Single quotes keep every character but U+0085, which is read as a line break of another kind or as a blank.
A value is read as it was written if none of its texts stands so and every key on one line is short enough
for its colon.
-/

namespace Triage.Yaml

/-! ## Texts -/

namespace Pen

variable {c : Char} {cs run : List Char} {rs : List (List Char)}

theorem normal_ne (c : Char) : normal c ≠ '\x85' := by
  rw [normal]
  split
  · rintro rfl
    contradiction
  · decide

theorem normal_eq_self (line : Style.isLineBreak c = true) (other : c ≠ '\x85') : normal c = c := by
  simp only [Style.isLineBreak, Bool.or_eq_true, beq_iff_eq] at line
  obtain ((rfl | rfl) | rfl) | rfl := line
  · rfl
  · exact absurd rfl other
  · rfl
  · rfl

theorem map_normal_eq_self (all : ∀ x ∈ run, Style.isLineBreak x = true) (other : '\x85' ∉ run) :
    run.map normal = run := by
  conv_rhs => rw [← List.map_id run]
  exact List.map_congr_left fun x member => normal_eq_self (all x member) fun same => other (same ▸ member)

theorem not_mem_map_normal (run : List Char) : '\x85' ∉ run.map normal := by
  intro member
  obtain ⟨x, -, same⟩ := List.mem_map.1 member
  exact normal_ne x same

theorem unfolded_breaks (all : ∀ x ∈ c :: run, Style.isLineBreak x = true) :
    unfolded (c :: run) =
      if c = '\x85' then Scan.folded ['\n'] (run.map normal) else (c :: run).map normal := by
  have kind : Run.of c = .breaks := of_eq_breaks.2 (all c List.mem_cons_self)
  rw [unfolded, List.headD_cons, if_pos kind]
  simp

theorem not_mem_unfolded (all : ∀ x ∈ c :: run, Style.isLineBreak x = true) : '\x85' ∉ unfolded (c :: run) := by
  rw [unfolded_breaks all]
  split
  · rw [Scan.folded, if_neg (by decide)]
    split
    · decide
    · exact not_mem_map_normal run
  · exact not_mem_map_normal (c :: run)

theorem unfolded_spaces (n : Nat) : unfolded (List.replicate (n + 1) ' ') = List.replicate (n + 1) ' ' := rfl

theorem unfolded_word (letter : isLetter c = true) : unfolded (c :: cs) = c :: cs := by
  have kind := of_eq_other letter
  rw [unfolded, List.headD_cons, if_neg (by rw [kind]; decide)]

theorem next_line_not_mem_of_letters (letters : ∀ x ∈ cs, isLetter x = true) : '\x85' ∉ cs :=
  fun member => absurd (letters _ member) (by decide)

/-- Runs without U+0085 are kept. -/
theorem flatMap_unfolded_of_not_mem (clean : Clean rs) (other : '\x85' ∉ rs.flatten) :
    rs.flatMap unfolded = rs.flatten := by
  induction clean with
  | done => rfl
  | @spaces n rs next rest ih =>
      rw [List.flatten_cons, List.mem_append, not_or] at other
      rw [List.flatMap_cons, List.flatten_cons, unfolded_spaces, ih other.2]
  | @breaks b bs rs all next rest ih =>
      rw [List.flatten_cons, List.mem_append, not_or] at other
      have first : b ≠ '\x85' := fun same => other.1 (same ▸ List.mem_cons_self)
      rw [List.flatMap_cons, List.flatten_cons, unfolded_breaks all, if_neg first, map_normal_eq_self all other.1,
        ih other.2]
  | @word c cs rs letters rest ih =>
      rw [List.flatten_cons, List.mem_append, not_or] at other
      rw [List.flatMap_cons, List.flatten_cons, unfolded_word (letters c List.mem_cons_self), ih other.2]

/-- What is read from single quotes never holds U+0085. -/
theorem not_mem_flatMap_unfolded (clean : Clean rs) : '\x85' ∉ rs.flatMap unfolded := by
  induction clean with
  | done => simp
  | @spaces n rs next rest ih =>
      rw [List.flatMap_cons, List.mem_append, not_or, unfolded_spaces]
      exact ⟨fun member => absurd (List.eq_of_mem_replicate member) (by decide), ih⟩
  | @breaks b bs rs all next rest ih =>
      rw [List.flatMap_cons, List.mem_append, not_or]
      exact ⟨not_mem_unfolded all, ih⟩
  | @word c cs rs letters rest ih =>
      rw [List.flatMap_cons, List.mem_append, not_or, unfolded_word (letters c List.mem_cons_self)]
      exact ⟨next_line_not_mem_of_letters letters, ih⟩

/-- Single quotes keep a text if and only if it has no U+0085. -/
theorem reread_eq_self_iff (allowed : Style.allowsSingle cs = true) : reread cs = cs ↔ '\x85' ∉ cs := by
  have clean := clean_runs allowed
  have whole : (runs cs).flatten = cs := List.flatten_splitBy _ cs
  rw [reread]
  constructor
  · intro same
    rw [← same]
    exact not_mem_flatMap_unfolded clean
  · intro other
    rw [flatMap_unfolded_of_not_mem clean (by rwa [whole]), whole]

end Pen

/-- A text that does not stand in single quotes with U+0085 inside. -/
def keepsText (s : String) : Bool :=
  !(s.toList.contains '\x85' && Style.choose (Tag.ofForm s == .str) false s.toList == .single)

/-- A text is read as itself if and only if it is kept. -/
theorem settleText_eq_self_iff {s : String} : settleText s = s ↔ keepsText s = true := by
  rw [settleText, keepsText]
  cases style : Style.choose (Tag.ofForm s == .str) false s.toList with
  | plain => simp
  | double => simp
  | single =>
      obtain ⟨allowed, -⟩ := Style.choose_eq_single style
      have read := Pen.reread_eq_self_iff allowed
      rw [← String.toList_inj, String.toList_ofList, read]
      simp

/-! ## Keys -/

theorem length_escape?_le {c : Char} {e : List Char} (escaped : Pen.escape? c = some e) : e.length ≤ 10 := by
  unfold Pen.escape? at escaped
  dsimp only at escaped
  split at escaped
  · cases escaped
  · split at escaped
    · cases escaped
      simp
    · split at escaped
      · cases escaped
        simp [Pen.length_hexadecimal]
      · split at escaped <;> cases escaped <;> simp [Pen.length_hexadecimal]

/-- A character takes at most ten, the marks around a text two. -/
theorem length_keyText_le (s : String) : (keyText (.text s)).length ≤ 10 * s.toList.length + 2 := by
  have total : ∀ (f : Char → List Char) (k : Nat), (∀ c, (f c).length ≤ k) → ∀ cs : List Char,
      (cs.flatMap f).length ≤ k * cs.length := by
    intro f k each cs
    induction cs with
    | nil => simp
    | cons c cs ih =>
        have first := each c
        rw [List.flatMap_cons, List.length_append, List.length_cons, Nat.mul_add]
        omega
  have marks := total (fun c => if c == '\'' then ['\'', '\''] else [c]) 10
    (fun c => by split <;> simp) s.toList
  have escapes := total (fun c => (Pen.escape? c).getD [c]) 10 (fun c => by
    cases escaped : Pen.escape? c with
    | none => simp
    | some e => exact length_escape?_le escaped) s.toList
  rw [keyText]
  simp only [scalarForm, Data.display]
  split
  · omega
  · simp only [Pen.quoteMarks, List.length_cons, List.length_append, List.length_nil]
    omega
  · simp only [List.length_cons, List.length_append, List.length_nil]
    omega

/-- A key of up to 102 characters stays pending up to its colon. -/
theorem keyFits_of_length_le {s : String} (short : s.toList.length ≤ 102) : keyFits (.text s) = true := by
  have bound := length_keyText_le s
  rw [keyFits, Bool.or_eq_true, decide_eq_true_eq]
  exact .inr (by omega)

mutual

/-- Whether all keys in a value are texts of up to 102 characters. -/
def shortKeys : Data → Bool
  | .list items => shortKeysItems items
  | .map entries => shortKeysEntries entries
  | _ => true

def shortKeysItems : List Data → Bool
  | [] => true
  | item :: rest => shortKeys item && shortKeysItems rest

def shortKeysEntries : List (Data × Data) → Bool
  | [] => true
  | (.text key, value) :: rest => key.toList.length ≤ 102 && shortKeys value && shortKeysEntries rest
  | _ => false

end

mutual

theorem keysFit_of_shortKeys : ∀ d : Data, shortKeys d = true → keysFit d = true
  | .list items, short => by
      rw [shortKeys] at short
      rw [keysFit]
      exact itemsFit_of_shortKeys items short
  | .map entries, short => by
      rw [shortKeys] at short
      rw [keysFit]
      exact entriesFit_of_shortKeys entries short
  | .null, _ | .bool _, _ | .int _, _ | .float _, _ | .text _, _ | .octets _, _ | .date _, _ | .moment _, _
  | .tuple _, _ | .set _, _ => by rw [keysFit] <;> simp

theorem itemsFit_of_shortKeys : ∀ items : List Data, shortKeysItems items = true → itemsFit items = true
  | [], _ => by rw [itemsFit]
  | item :: rest, short => by
      rw [shortKeysItems, Bool.and_eq_true] at short
      rw [itemsFit, keysFit_of_shortKeys item short.1, itemsFit_of_shortKeys rest short.2]
      rfl

theorem entriesFit_of_shortKeys : ∀ entries :
    List (Data × Data), shortKeysEntries entries = true → entriesFit entries = true
  | [], _ => by rw [entriesFit]
  | (.text key, value) :: rest, short => by
      rw [shortKeysEntries, Bool.and_eq_true, Bool.and_eq_true, decide_eq_true_eq] at short
      rw [entriesFit, keyFits_of_length_le short.1.1, keysFit_of_shortKeys value short.1.2,
        entriesFit_of_shortKeys rest short.2]
      rfl

end

/-! ## Values -/

mutual

/-- Whether all texts in a value are kept. -/
def keepsTexts : Data → Bool
  | .text s => keepsText s
  | .list items => keepsItems items
  | .map entries => keepsEntries entries
  | _ => true

def keepsItems : List Data → Bool
  | [] => true
  | item :: rest => keepsTexts item && keepsItems rest

def keepsEntries : List (Data × Data) → Bool
  | [] => true
  | (key, value) :: rest => keepsTexts key && keepsTexts value && keepsEntries rest

end

section

variable {items : List Data} {es : List (Data × Data)} {d : Data}

theorem settleItems_eq_map (items : List Data) : settleItems items = items.map settle := by
  induction items with
  | nil => rw [settleItems, List.map_nil]
  | cons item items ih => rw [settleItems, ih, List.map_cons]

theorem settleEntries_eq_map (es : List (Data × Data)) :
    settleEntries es = es.map fun entry => (settle entry.1, settle entry.2) := by
  induction es with
  | nil => rw [settleEntries, List.map_nil]
  | cons entry es ih => rw [settleEntries, ih, List.map_cons]

theorem keepsItems_iff : keepsItems items = true ↔ ∀ item ∈ items, keepsTexts item = true := by
  induction items with
  | nil => simp [keepsItems]
  | cons item items ih => rw [keepsItems, Bool.and_eq_true, ih, List.forall_mem_cons]

theorem keepsEntries_iff : keepsEntries es = true ↔
    ∀ entry ∈ es, keepsTexts entry.1 = true ∧ keepsTexts entry.2 = true := by
  induction es with
  | nil => simp [keepsEntries]
  | cons entry es ih => rw [keepsEntries, Bool.and_eq_true, Bool.and_eq_true, ih, List.forall_mem_cons]

theorem settle_text (s : String) : settle (.text s) = .text (settleText s) := by
  rw [Assembly.settle_scalar rfl, settleScalar]

theorem put_of_not_mem {key : String} {value : Data} {fields : List (String × Data)}
    (absent : key ∉ fields.map Prod.fst) :
    Data.put (.text key) value (fields.map fun field => (Data.text field.1, field.2)) =
      (fields ++ [(key, value)]).map fun field => (Data.text field.1, field.2) := by
  induction fields with
  | nil => rfl
  | cons field fields ih =>
      rw [List.map_cons, List.mem_cons, not_or] at absent
      have other : Data.same (.text field.1) (.text key) = false := by
        rw [Data.same, beq_eq_false_iff_ne]
        exact Ne.symm absent.1
      rw [List.map_cons, Data.put, other, if_neg Bool.false_ne_true, ih absent.2, List.cons_append, List.map_cons]

/-- Distinct keys keep their entries. -/
theorem gather_record {fields : List (String × Data)} (distinct : (fields.map Prod.fst).Nodup) :
    gather (fields.map fun field => (Data.text field.1, field.2)) =
      fields.map fun field => (Data.text field.1, field.2) := by
  have behind : ∀ before after : List (String × Data), ((before ++ after).map Prod.fst).Nodup →
      (after.map fun field => (Data.text field.1, field.2)).foldl (fun t entry => Data.put entry.1 entry.2 t)
          (before.map fun field => (Data.text field.1, field.2)) =
        (before ++ after).map fun field => (Data.text field.1, field.2) := by
    intro before after
    induction after generalizing before with
    | nil => simp
    | cons field after ih =>
        intro nodup
        have absent : field.1 ∉ before.map Prod.fst := by
          rw [List.map_append, List.map_cons] at nodup
          intro present
          exact (List.nodup_append.1 nodup).2.2 _ present _ List.mem_cons_self rfl
        have next := ih (before ++ [field]) (by rwa [List.append_assoc, List.singleton_append])
        rw [List.append_assoc, List.singleton_append] at next
        rw [List.map_cons, List.foldl_cons, put_of_not_mem absent]
        exact next
  exact behind [] fields distinct

/-- The entries of a mapping with distinct keys are settled one by one where the keys are kept. -/
theorem settle_record {fields : List (String × Data)} (distinct : (fields.map Prod.fst).Nodup)
    (keys : ∀ field ∈ fields, keepsText field.1 = true) :
    settle (.record fields) = .record (fields.map fun field => (field.1, settle field.2)) := by
  have settled : settleEntries (fields.map fun field => (Data.text field.1, field.2)) =
      (fields.map fun field => (field.1, settle field.2)).map fun field => (Data.text field.1, field.2) := by
    rw [settleEntries_eq_map, List.map_map, List.map_map]
    refine List.map_congr_left fun field member => ?_
    simp only [Function.comp_apply, settle_text, settleText_eq_self_iff.2 (keys field member)]
  have same : (fields.map fun field => (field.1, settle field.2)).map Prod.fst = fields.map Prod.fst := by
    rw [List.map_map]
    rfl
  rw [Data.record, settle, settled, gather_record (same ▸ distinct), Data.record]

/-- A value whose texts are kept is read as itself. -/
theorem settle_eq_self {n : Nat} (outline : Outline n d) (kept : keepsTexts d = true) : settle d = d := by
  induction outline with
  | @scalar n d alone =>
      cases d with
      | text s =>
          rw [keepsTexts] at kept
          rw [settle_text, settleText_eq_self_iff.2 kept]
      | null | bool | int | float => exact Assembly.settle_scalar alone
      | _ => cases alone
  | @list n items each ih =>
      rw [keepsTexts, keepsItems_iff] at kept
      have same : items.map settle = items.map id :=
        List.map_congr_left fun item member => ih item member (kept item member)
      rw [settle, settleItems_eq_map, same, List.map_id]
  | @record n fields distinct each ih =>
      rw [Data.record, keepsTexts, keepsEntries_iff, List.forall_mem_map] at kept
      have keys : ∀ field ∈ fields, keepsText field.1 = true := by
        intro field member
        have key := (kept field member).1
        rwa [keepsTexts] at key
      have same : fields.map (fun field => (field.1, settle field.2)) = fields.map id :=
        List.map_congr_left fun field member => Prod.ext rfl (ih field member (kept field member).2)
      rw [settle_record distinct keys, same, List.map_id]

end

/-- What is written is read as the value where its keys are short and its texts are kept. -/
theorem read_layout_eq_self {n : Nat} {f : String × Data} {fs : List (String × Data)}
    (distinct : ((f :: fs).map Prod.fst).Nodup)
    (each : ∀ field ∈ f :: fs, Outline n field.2) (narrow : 2 * n + 2 < lineWidth)
    (writable : Data.isWritable (.record (f :: fs)) = true) (short : shortKeys (.record (f :: fs)) = true)
    (kept : keepsTexts (.record (f :: fs)) = true) :
    read (layout (.record (f :: fs))) = .ok (.record (f :: fs)) := by
  rw [read_layout distinct each narrow writable (keysFit_of_shortKeys _ short),
    settle_eq_self (.record distinct each) kept]

end Triage.Yaml
