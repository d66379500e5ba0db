import Triage.Proofs.Report.Advice
import Triage.Proofs.Text.Lines
import Triage.Proofs.Yaml.Numbers

/-!
# Tables of a report

A row of a table is a line with a bar in front of its cells, between them and behind them. A bar behind a backslash is
part of a cell. Names and titles are written into rows as they are, so each row is one line with its cells unless they
hold a line break or a bar.
-/

namespace Triage.Report

/-! ## Cells -/

section

variable {escaped : Bool} {before cs : List Char}

/-- What stands between the bars of a line. A backslash escapes what is behind it. -/
def pieces : Bool → List Char → List (List Char)
  | _, [] => [[]]
  | escaped, c :: rest =>
    if c = '|' ∧ escaped = false then [] :: pieces false rest
    else (pieces (c == '\\' && !escaped) rest).modifyHead (c :: ·)

/-- The cells of a line that starts and ends with a bar. -/
def cells (line : List Char) : List (List Char) := (pieces false line).tail.dropLast

/-- A character without a meaning in a row. -/
def IsPlain (c : Char) : Prop := c ≠ '|' ∧ c ≠ '\\' ∧ c ≠ '\n' ∧ c ≠ '\r'

theorem pieces_ne_nil (escaped : Bool) (cs : List Char) : pieces escaped cs ≠ [] := by
  induction cs generalizing escaped with
  | nil => exact List.cons_ne_nil _ _
  | cons c rest ih =>
      rw [pieces]
      split
      · exact List.cons_ne_nil _ _
      · cases split : pieces (c == '\\' && !escaped) rest with
        | nil => exact absurd split (ih _)
        | cons first others => exact List.cons_ne_nil _ _

theorem modifyHead_append {α : Type} {xs : List α} (filled : xs ≠ []) (f : α → α) (ys : List α) :
    (xs ++ ys).modifyHead f = xs.modifyHead f ++ ys := by
  cases xs with
  | nil => exact absurd rfl filled
  | cons x xs => rfl

/-- A bar behind a blank ends a piece. -/
theorem pieces_append_bar (escaped : Bool) (before rest : List Char) :
    pieces escaped (before ++ ' ' :: '|' :: rest) = pieces escaped (before ++ [' ']) ++ pieces false rest := by
  induction before generalizing escaped with
  | nil => simp [pieces]
  | cons c before ih =>
      rw [List.cons_append, List.cons_append, pieces, pieces, ih, ih]
      split
      · rfl
      · rw [modifyHead_append (pieces_ne_nil _ _)]

/-- A blank behind a text is part of its last piece. -/
theorem length_pieces_blank (escaped : Bool) (cs : List Char) :
    (pieces escaped (cs ++ [' '])).length = (pieces escaped cs).length := by
  induction cs generalizing escaped with
  | nil => simp [pieces]
  | cons c rest ih =>
      rw [List.cons_append, pieces, pieces]
      split
      · rw [List.length_cons, List.length_cons, ih]
      · rw [List.length_modifyHead, List.length_modifyHead, ih]

/-- Plain characters in front of a text are part of its first piece. -/
theorem length_pieces_plain (plain : ∀ c ∈ before, IsPlain c) (cs : List Char) :
    (pieces false (before ++ cs)).length = (pieces false cs).length := by
  induction before with
  | nil => rfl
  | cons c before ih =>
      obtain ⟨⟨bar, backslash, -⟩, others⟩ := List.forall_mem_cons.1 plain
      rw [List.cons_append, pieces, if_neg (fun same => bar same.1), List.length_modifyHead,
        beq_eq_false_iff_ne.2 backslash, Bool.false_and, ih others]

/-- A text of one piece is that piece. -/
theorem length_pieces_eq_one_iff : (pieces escaped cs).length = 1 ↔ pieces escaped cs = [cs] := by
  constructor
  · intro single
    induction cs generalizing escaped with
    | nil => rfl
    | cons c rest ih =>
        rw [pieces] at single ⊢
        split at single
        · have some := List.length_pos_of_ne_nil (pieces_ne_nil false rest)
          rw [List.length_cons] at single
          omega
        · rename_i inner
          rw [List.length_modifyHead] at single
          rw [if_neg inner, ih single]
          rfl
  · intro single
    rw [single]
    rfl

end

/-! ## Rows -/

section

variable {contents : List String} {content : String}

/-- A text that fits in a cell: nothing ends a line in it, and there is no bar without a backslash. -/
structure IsCell (content : String) : Prop where
  feed : '\n' ∉ content.toList
  carriage : '\r' ∉ content.toList
  whole : pieces false content.toList = [content.toList]

/-- A row with given contents of its cells. -/
def row (contents : List String) : String := "|" ++ String.join (contents.map fun content => " " ++ content ++ " |")

/-- The lines of a text, each as what is in its cells. -/
def cellsOf (text : String) : List (List String) := (Text.lines text).map fun line => (cells line).map String.ofList

/-- A text is a single line of a number of cells. -/
def IsRow (width : ℕ) (text : String) : Prop := ∃ line, cellsOf text = [line] ∧ line.length = width

theorem toList_row (contents : List String) : (row contents).toList =
    '|' :: contents.flatMap fun content => ' ' :: (content.toList ++ [' ', '|']) := by
  rw [row, String.toList_append, String.toList_join, List.flatMap_map]
  exact congrArg ('|' :: ·) (List.flatMap_congr fun content _ => by simp [String.toList_append])

theorem not_mem_row_iff {c : Char} (bar : c ≠ '|') (blank : c ≠ ' ') :
    c ∉ (row contents).toList ↔ ∀ content ∈ contents, c ∉ content.toList := by
  simp [toList_row, bar, blank]

/-- The bars of a row are around its contents. -/
theorem cells_row (contents : List String) : cells (row contents).toList =
    contents.flatMap fun content => pieces false (' ' :: (content.toList ++ [' '])) := by
  have parts : pieces false (contents.flatMap fun content => ' ' :: (content.toList ++ [' ', '|'])) =
      (contents.flatMap fun content => pieces false (' ' :: (content.toList ++ [' ']))) ++ [[]] := by
    induction contents with
    | nil => rfl
    | cons content rest ih =>
        have apart := pieces_append_bar false (' ' :: content.toList)
          (rest.flatMap fun content => ' ' :: (content.toList ++ [' ', '|']))
        rw [List.flatMap_cons, List.flatMap_cons, List.append_assoc, ← ih]
        simpa using apart
  rw [cells, toList_row, pieces, if_pos ⟨rfl, rfl⟩, List.tail_cons, parts, List.dropLast_concat]

theorem length_inset (content : String) : (pieces false (' ' :: (content.toList ++ [' ']))).length =
    (pieces false content.toList).length := by
  rw [← List.singleton_append, length_pieces_plain (by simp [IsPlain]), length_pieces_blank]

theorem isCell_iff : IsCell content ↔ '\n' ∉ content.toList ∧ '\r' ∉ content.toList ∧
    (pieces false content.toList).length = 1 := by
  rw [length_pieces_eq_one_iff]
  constructor
  · rintro ⟨feed, carriage, whole⟩
    exact ⟨feed, carriage, whole⟩
  · rintro ⟨feed, carriage, whole⟩
    exact ⟨feed, carriage, whole⟩

theorem isRow_iff {width : ℕ} {text : String} : IsRow width text ↔
    '\n' ∉ text.toList ∧ '\r' ∉ text.toList ∧ (cells text.toList).length = width := by
  constructor
  · rintro ⟨line, single, rfl⟩
    obtain ⟨only, listed, rfl⟩ := List.map_eq_singleton_iff.1 single
    obtain ⟨rfl, feed, carriage⟩ := Text.lines_eq_singleton_iff.1 listed
    exact ⟨feed, carriage, (List.length_map _).symm⟩
  · rintro ⟨feed, carriage, width⟩
    have listed := Text.lines_eq_singleton_iff.2 ⟨rfl, feed, carriage⟩
    exact ⟨_, by rw [cellsOf, listed, List.map_singleton], (List.length_map _).trans width⟩

theorem sum_eq_length_iff {α : Type} {f : α → ℕ} (positive : ∀ x, 0 < f x) (xs : List α) :
    (xs.map f).sum = xs.length ↔ ∀ x ∈ xs, f x = 1 := by
  have least (xs : List α) : xs.length ≤ (xs.map f).sum := by
    have each : ∀ n ∈ xs.map f, 1 ≤ n := List.forall_mem_map.2 fun x _ => positive x
    simpa using List.length_le_sum_of_one_le _ each
  induction xs with
  | nil => simp
  | cons x rest ih =>
      have here := positive x
      have others := least rest
      rw [List.map_cons, List.sum_cons, List.length_cons, List.forall_mem_cons]
      constructor
      · intro total
        exact ⟨by omega, ih.1 (by omega)⟩
      · rintro ⟨one, ones⟩
        rw [one, ih.2 ones, Nat.add_comm]

/-- A row is one line with its cells exactly where each of its contents fits in a cell. -/
theorem isRow_row_iff : IsRow contents.length (row contents) ↔ ∀ content ∈ contents, IsCell content := by
  have sizes : (cells (row contents).toList).length =
      (contents.map fun content => (pieces false content.toList).length).sum := by
    rw [cells_row, List.length_flatMap]
    simp only [length_inset]
  have filled (content : String) : 0 < (pieces false content.toList).length :=
    List.length_pos_of_ne_nil (pieces_ne_nil _ _)
  rw [isRow_iff, not_mem_row_iff (by decide) (by decide), not_mem_row_iff (by decide) (by decide), sizes,
    sum_eq_length_iff filled]
  simp only [isCell_iff, forall_and]

/-- Its cells then hold the contents, with a blank on both sides. -/
theorem cellsOf_row (fits : ∀ content ∈ contents, IsCell content) :
    cellsOf (row contents) = [contents.map fun content => " " ++ content ++ " "] := by
  obtain ⟨feed, carriage, -⟩ := isRow_iff.1 (isRow_row_iff.2 fits)
  have inset : ∀ content ∈ contents, pieces false (' ' :: (content.toList ++ [' '])) =
      [' ' :: (content.toList ++ [' '])] := by
    intro content member
    rw [← length_pieces_eq_one_iff, length_inset, (fits content member).whole]
    rfl
  have parts : cells (row contents).toList = contents.map fun content => ' ' :: (content.toList ++ [' ']) := by
    rw [cells_row, List.flatMap_congr inset, List.map_eq_flatMap]
  rw [cellsOf, Text.lines_eq_singleton_iff.2 ⟨rfl, feed, carriage⟩, List.map_singleton, parts, List.map_map]
  refine congrArg ([·]) (List.map_congr_left fun content _ => String.toList_inj.1 ?_)
  simp [String.toList_append]

/-- Plain characters in front of a text change nothing. -/
theorem isCell_append_iff {front : String} (plain : ∀ c ∈ front.toList, IsPlain c) :
    IsCell (front ++ content) ↔ IsCell content := by
  have feed : '\n' ∉ front.toList := fun member => (plain _ member).2.2.1 rfl
  have carriage : '\r' ∉ front.toList := fun member => (plain _ member).2.2.2 rfl
  simp only [isCell_iff, String.toList_append, List.mem_append, feed, carriage, false_or, length_pieces_plain plain]

theorem isCell_of_plain (plain : ∀ c ∈ content.toList, IsPlain c) : IsCell content := by
  have empty : IsCell "" := ⟨by simp, by simp, rfl⟩
  rw [← String.append_empty (s := content)]
  exact (isCell_append_iff plain).2 empty

end

/-! ## Numbers in cells -/

theorem plain_of_numeric {cs : List Char} (numeric : ∀ c ∈ cs, c ∈ Decimal.numberChars) : ∀ c ∈ cs, IsPlain c := by
  have plain : ∀ c ∈ Decimal.numberChars, (c != '|' && c != '\\' && c != '\n' && c != '\r') = true :=
    List.all_eq_true.1 (by decide)
  intro c member
  simpa [IsPlain, and_assoc] using plain c (numeric c member)

theorem plain_toString (n : ℤ) : ∀ c ∈ (toString n).toList, IsPlain c := by
  rw [Yaml.toList_toString]
  exact plain_of_numeric (Yaml.withSign_mem_numberChars _ (Yaml.digits_mem_numberChars _))

theorem numeric_fixedMagnitude (places num den : ℕ) :
    ∀ c ∈ Decimal.fixedMagnitude places num den, c ∈ Decimal.numberChars := by
  have digits (width n : ℕ) : ∀ c ∈ Decimal.padded width n, c ∈ Decimal.numberChars :=
    fun c member => Decimal.mem_numberChars (Decimal.isDigit_of_mem_padded member)
  unfold Decimal.fixedMagnitude
  split
  · exact digits _ _
  · intro c member
    rcases List.mem_append.1 member with whole | member
    · exact digits _ _ c (List.mem_of_mem_take whole)
    · rcases List.mem_cons.1 member with rfl | part
      · decide +kernel
      · exact digits _ _ c (List.mem_of_mem_drop part)

theorem plain_fixed (x : Float) : ∀ c ∈ (Quantity.fixed 1 x).toList, IsPlain c := by
  change ∀ c ∈ (Decimal.fixed 1 x).toList, IsPlain c
  rw [Decimal.fixed]
  split
  · rw [Decimal.special]
    split
    · simp [IsPlain]
    · split <;> simp [IsPlain]
  · rw [String.toList_ofList]
    exact plain_of_numeric (Yaml.withSign_mem_numberChars _ (numeric_fixedMagnitude _ _ _))

/-! ## Rows of a report -/

/-- The row of an entry of a table of counts. -/
def countRow (entry : String × ℕ) : String := row [entry.1, toString entry.2]

/-- What is said of an issue that is past its time. -/
def breachContents (b : Standing Float) : List String :=
  [s!"#{b.number} {b.title.display}", b.priority, Quantity.fixed 1 b.exceeded]

def breachRow (b : Standing Float) : String := row (breachContents b)

/-- Counts fit in cells, so the name decides. -/
theorem isCell_counts_iff (name : String) (count : ℕ) :
    (∀ content ∈ [name, toString count], IsCell content) ↔ IsCell name := by
  have counted : IsCell (toString count) := isCell_of_plain (plain_toString count)
  rw [List.forall_mem_cons, List.forall_mem_singleton]
  exact and_iff_left counted

/-- Numbers and hours fit in cells, so the title and the priority decide. -/
theorem isCell_breach_iff (b : Standing Float) :
    (∀ content ∈ breachContents b, IsCell content) ↔ IsCell b.title.display ∧ IsCell b.priority := by
  have numbered : ∀ c ∈ ("#" ++ toString b.number ++ " ").toList, IsPlain c := by
    simp only [String.toList_append, List.forall_mem_append]
    exact ⟨⟨by simp [IsPlain], plain_toString _⟩, by simp [IsPlain]⟩
  have title : IsCell s!"#{b.number} {b.title.display}" ↔ IsCell b.title.display := isCell_append_iff numbered
  have hours : IsCell (Quantity.fixed 1 b.exceeded) := isCell_of_plain (plain_fixed _)
  rw [breachContents, List.forall_mem_cons, List.forall_mem_cons, List.forall_mem_singleton, title]
  exact and_congr_right fun _ => and_iff_left hours

/-! ## The document -/

/-- Lines with a line feed behind each. -/
def feeds (texts : List String) : String := String.join (texts.map (· ++ "\n"))

theorem feeds_append (first second : List String) : feeds (first ++ second) = feeds first ++ feeds second := by
  simp [feeds]

theorem intercalate_feed {text : String} {rest : List String} :
    "\n".intercalate (text :: rest) ++ "\n" = feeds (text :: rest) := by
  induction rest generalizing text with
  | nil => simp [feeds]
  | cons next rest ih =>
      rw [String.intercalate_cons_cons, String.append_assoc, ih]
      simp [feeds, String.join_cons]

/-- Whatever is written before it, the lines of a text are lines of the whole. -/
theorem exists_lines_feeds (texts : List String) (rest : String) :
    ∃ before, Text.lines (feeds texts ++ rest) = before ++ Text.lines rest := by
  induction texts with
  | nil => exact ⟨[], by simp [feeds]⟩
  | cons text texts ih =>
      obtain ⟨here, whole, -⟩ := Text.exists_lines_feed text
      obtain ⟨before, later⟩ := ih
      refine ⟨here ++ before, ?_⟩
      rw [feeds, List.map_cons, String.join_cons, String.append_assoc, whole, ← feeds, later, List.append_assoc]

theorem lines_feeds {texts : List String} (ended : ∀ text ∈ texts, text.toList.getLast? ≠ some '\r') (rest : String) :
    Text.lines (feeds texts ++ rest) = texts.flatMap Text.lines ++ Text.lines rest := by
  induction texts with
  | nil => simp [feeds]
  | cons text texts ih =>
      obtain ⟨last, others⟩ := List.forall_mem_cons.1 ended
      obtain ⟨here, whole, same⟩ := Text.exists_lines_feed text
      rw [feeds, List.map_cons, String.join_cons, String.append_assoc, whole, ← feeds, ih others, same last,
        List.flatMap_cons, List.append_assoc]

/-- A document has a table: its title, its head with a rule below it, the lines of its rows, and an empty line. -/
def HasTable (document title head rule : String) (rows : List String) : Prop :=
  ∃ before after, Text.lines document =
    before ++ (["### " ++ title, "", head, rule].map String.toList ++ rows.flatMap Text.lines ++ [[]]) ++ after

theorem getLast?_row (contents : List String) : (row contents).toList.getLast? = some '|' := by
  rw [toList_row]
  induction contents using List.reverseRecOn with
  | nil => rfl
  | append_singleton contents content _ =>
      simp [List.getLast?_cons, List.getLast?_append]

theorem hasTable_feeds {title head rule : String} {rows : List String} (before after : List String)
    (single : ∀ text ∈ ["### " ++ title, "", head, rule], '\n' ∉ text.toList ∧ '\r' ∉ text.toList)
    (barred : ∀ text ∈ rows, text.toList.getLast? = some '|') :
    HasTable (feeds (before ++ (["### " ++ title, "", head, rule] ++ rows ++ [""]) ++ after)) title head rule rows := by
  have ended : ∀ text ∈ ["### " ++ title, "", head, rule] ++ rows ++ [""], text.toList.getLast? ≠ some '\r' := by
    intro text member last
    rcases List.mem_append.1 member with member | empty
    · rcases List.mem_append.1 member with fixed | among
      · exact (single text fixed).2 (List.mem_of_getLast? last)
      · cases (barred text among).symm.trans last
    · rw [List.mem_singleton.1 empty] at last
      cases last
  have fixed : ["### " ++ title, "", head, rule].flatMap Text.lines =
      ["### " ++ title, "", head, rule].map String.toList := by
    rw [List.map_eq_flatMap]
    exact List.flatMap_congr fun text member => Text.lines_eq_singleton_iff.2 ⟨rfl, single text member⟩
  obtain ⟨above, whole⟩ := exists_lines_feeds before
    (feeds (["### " ++ title, "", head, rule] ++ rows ++ [""]) ++ feeds after)
  refine ⟨above, Text.lines (feeds after), ?_⟩
  rw [feeds_append, feeds_append, String.append_assoc, whole, lines_feeds ended, List.flatMap_append,
    List.flatMap_append, fixed, List.append_assoc above]
  rfl

theorem barred_map {α : Type} {contents : α → List String} (xs : List α) :
    ∀ text ∈ xs.map fun x => row (contents x), text.toList.getLast? = some '|' :=
  List.forall_mem_map.2 fun _ _ => getLast?_row _

/-- The tables of counts, with their titles. -/
def countTables {α : Type} (r : Report α) : List (String × Table ℕ) :=
  [("By status", r.byStatus), ("By priority", r.byPriority), ("By type", r.byType)]

theorem table_eq (title : String) (counts : Table ℕ) : table title counts =
    ["### " ++ title, "", "| Label | Issues |", "|---|---|"] ++ (rows counts).map countRow ++ [""] := by
  have same (entry : String × ℕ) : s!"| {entry.1} | {entry.2} |" = countRow entry := by
    change "| " ++ entry.1 ++ " | " ++ toString entry.2 ++ " |" = _
    simp [countRow, row, ← String.toList_inj]
  rw [table, ← funext same]

theorem breachTable_eq {breaches : List (Standing Float)} (filled : breaches ≠ []) : breachTable breaches =
    ["### " ++ "Past SLA", "", "| Issue | Priority | Hours over |", "|---|---|---|"] ++ breaches.map breachRow ++
      [""] := by
  have same (b : Standing Float) :
      s!"| #{b.number} {b.title.display} | {b.priority} | {Quantity.fixed 1 b.exceeded} |" = breachRow b := by
    change "| #" ++ toString b.number ++ " " ++ b.title.display ++ " | " ++ b.priority ++ " | " ++
      Quantity.fixed 1 b.exceeded ++ " |" = row ["#" ++ toString b.number ++ " " ++ b.title.display, _, _]
    simp [row, ← String.toList_inj]
  rw [breachTable, if_neg (by simpa using filled), ← funext same]
  rfl

theorem markdown_eq_feeds (r : Report Float) (repo : Option String) : r.markdown repo = feeds (r.lines repo) :=
  intercalate_feed

/-- The headings of the report, without the tables. -/
def opening (r : Report Float) (repo : Option String) : List String := (r.lines repo).take 10

def closing (r : Report Float) : List String := ["### Recommendations", ""] ++ r.recommendations.map ("- " ++ ·)

theorem lines_eq (r : Report Float) (repo : Option String) : r.lines repo = opening r repo ++
    (table "By status" r.byStatus ++ (table "By priority" r.byPriority ++ (table "By type" r.byType ++
      (breachTable r.breaches ++ closing r)))) := by
  simp [opening, closing, lines]

theorem hasTable_counts (r : Report Float) (repo : Option String) : ∀ entry ∈ countTables r,
    HasTable (r.markdown repo) entry.1 "| Label | Issues |" "|---|---|" ((rows entry.2).map countRow) := by
  have written {title : String} {counts : Table ℕ} (before after : List String)
      (single : ∀ text ∈ ["### " ++ title, "", "| Label | Issues |", "|---|---|"],
        '\n' ∉ text.toList ∧ '\r' ∉ text.toList)
      (whole : r.lines repo = before ++ (table title counts ++ after)) :
      HasTable (r.markdown repo) title "| Label | Issues |" "|---|---|" ((rows counts).map countRow) := by
    rw [markdown_eq_feeds, whole, table_eq, ← List.append_assoc before]
    exact hasTable_feeds before after single (barred_map _)
  have split := lines_eq r repo
  simp only [countTables, List.forall_mem_cons]
  refine ⟨written (opening r repo) _ (by decide) split, ?_, ?_, by simp⟩
  · exact written (opening r repo ++ table "By status" r.byStatus) _ (by decide) (by rw [split, List.append_assoc])
  · exact written (opening r repo ++ table "By status" r.byStatus ++ table "By priority" r.byPriority) _ (by decide)
      (by rw [split, List.append_assoc, List.append_assoc])

theorem hasTable_breaches {r : Report Float} (filled : r.breaches ≠ []) (repo : Option String) :
    HasTable (r.markdown repo) "Past SLA" "| Issue | Priority | Hours over |" "|---|---|---|"
      (r.breaches.map breachRow) := by
  have whole : r.lines repo = (opening r repo ++ table "By status" r.byStatus ++ table "By priority" r.byPriority ++
      table "By type" r.byType) ++ (breachTable r.breaches ++ closing r) := by
    simp [lines_eq]
  rw [markdown_eq_feeds, whole, breachTable_eq filled, ← List.append_assoc]
  exact hasTable_feeds _ _ (by decide) (barred_map _)

/-- A report has a table for each of its counts, with a row for each entry, and one for the issues past their time if
there are any, with a row for each of them in order. A row is one line with its two or three cells exactly where the
name, or the title and the priority, fit in a cell, and then its cells hold them. -/
theorem tables_hold_rows (r : Report Float) (repo : Option String) :
    (∀ entry ∈ countTables r, (rows entry.2).Perm entry.2.entries ∧
      HasTable (r.markdown repo) entry.1 "| Label | Issues |" "|---|---|" ((rows entry.2).map countRow)) ∧
    (r.breaches = [] ∨ HasTable (r.markdown repo) "Past SLA" "| Issue | Priority | Hours over |" "|---|---|---|"
      (r.breaches.map breachRow)) ∧
    (∀ name count, (IsRow 2 (countRow (name, count)) ↔ IsCell name) ∧
      (IsCell name → cellsOf (countRow (name, count)) = [[s!" {name} ", s!" {count} "]])) ∧
    ∀ b : Standing Float, (IsRow 3 (breachRow b) ↔ IsCell b.title.display ∧ IsCell b.priority) ∧
      (IsCell b.title.display ∧ IsCell b.priority → cellsOf (breachRow b) =
        [[s!" #{b.number} {b.title.display} ", s!" {b.priority} ", s!" {Quantity.fixed 1 b.exceeded} "]]) := by
  refine ⟨fun entry member => ⟨List.mergeSort_perm _ _, hasTable_counts r repo entry member⟩, ?_,
    fun name count => ?_, fun b => ?_⟩
  · by_cases empty : r.breaches = []
    · exact .inl empty
    · exact .inr (hasTable_breaches empty repo)
  · have fits := isCell_counts_iff name count
    exact ⟨isRow_row_iff.trans fits, fun cell => cellsOf_row (fits.2 cell)⟩
  · have fits := isCell_breach_iff b
    refine ⟨isRow_row_iff.trans fits, fun cells => (cellsOf_row (fits.2 cells)).trans ?_⟩
    have first : " " ++ ("#" ++ toString b.number ++ " " ++ b.title.display) ++ " " =
        " #" ++ toString b.number ++ " " ++ b.title.display ++ " " := by
      simp [← String.toList_inj]
    exact congrArg (fun cell => [[cell, _, _]]) first

/-- An issue with a bar in its title that is open since the first of the month. -/
def barred : Issue := { Sla.openedOn 2 1 "open" with title := .text "Log in | out" }

/-- The issue is past its time, and its row has four cells. -/
theorem barred_has_four_cells : ∃ r : Report Float, (build Sla.newProject 1 endOfMarch [barred]).result = .ok r ∧
    HasTable (r.markdown none) "Past SLA" "| Issue | Priority | Hours over |" "|---|---|---|"
      ["| #2 Log in | out | P1 | 697.0 |"] ∧
    cellsOf "| #2 Log in | out | P1 | 697.0 |" = [[" #2 Log in ", " out ", " P1 ", " 697.0 "]] ∧
    ¬ IsRow 3 "| #2 Log in | out | P1 | 697.0 |" := by
  have shown : (build Sla.newProject 1 endOfMarch [barred] : Run (Report Float)).result.map
      (fun r => r.breaches.map breachRow) = .ok ["| #2 Log in | out | P1 | 697.0 |"] := by
    decide +kernel
  obtain ⟨r, built, written⟩ := map_eq_ok_iff.1 shown
  have filled : r.breaches ≠ [] := by
    intro empty
    rw [empty] at written
    cases written
  have four : cellsOf "| #2 Log in | out | P1 | 697.0 |" = [[" #2 Log in ", " out ", " P1 ", " 697.0 "]] := by
    decide +kernel
  refine ⟨r, built, written ▸ hasTable_breaches filled none, four, ?_⟩
  rintro ⟨line, single, width⟩
  obtain rfl := List.singleton_inj.1 (four.symm.trans single)
  cases width

end Triage.Report
