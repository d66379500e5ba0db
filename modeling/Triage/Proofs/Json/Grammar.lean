import Triage.Json.Reading
import Triage.Json.Writing
import Triage.Proofs.Decimal.Shortest
import Triage.Proofs.Decimal.Spelled

/-!
# The grammar of JSON

What counts as a JSON value is said apart from the reader and the writer. Everything that is written is one, up to
the words for numbers that are not finite, for which JSON has none.
-/

namespace Triage.Json

/-! ## Grammar -/

def IsBlank (cs : List Char) : Prop := ∀ c ∈ cs, isSpace c = true

/-- One or more digits. -/
structure AreDigits (cs : List Char) : Prop where
  some : cs ≠ []
  each : ∀ c ∈ cs, c.isDigit = true

/-- Digits without a zero in front of others. -/
inductive IsWhole : List Char → Prop
  | zero : IsWhole ['0']
  | digits {cs : List Char} (digits : AreDigits cs) (first : cs.head? ≠ some '0') : IsWhole cs

/-- Digits behind a point, or nothing. -/
inductive IsFraction : List Char → Prop
  | none : IsFraction []
  | point {cs : List Char} (digits : AreDigits cs) : IsFraction ('.' :: cs)

/-- Digits behind the mark of an exponent, with or without a sign, or nothing. -/
inductive IsExponent : List Char → Prop
  | none : IsExponent []
  | marked {mark : Char} {sign cs : List Char} (known : mark ∈ ['e', 'E']) (signed : sign ∈ [[], ['+'], ['-']])
      (digits : AreDigits cs) : IsExponent (mark :: (sign ++ cs))

inductive IsNumber : List Char → Prop
  | parts {sign whole fraction exponent : List Char} (signed : sign ∈ [[], ['-']]) (whole' : IsWhole whole)
      (fraction' : IsFraction fraction) (exponent' : IsExponent exponent) :
      IsNumber (sign ++ whole ++ fraction ++ exponent)

/-- What stands for one character of a string. -/
inductive IsLetter : List Char → Prop
  | plain {c : Char} (quote : c ≠ '"') (escape : c ≠ '\\') (control : 0x20 ≤ c.toNat) : IsLetter [c]
  | escape {c : Char} (known : c ∈ ['"', '\\', '/', 'b', 'f', 'n', 'r', 't']) : IsLetter ['\\', c]
  | code {digits : List Char} (four : digits.length = 4) (hex : ∀ c ∈ digits, (hexValue? c).isSome = true) :
      IsLetter ('\\' :: 'u' :: digits)

inductive IsString : List Char → Prop
  | letters {letters : List (List Char)} (each : ∀ letter ∈ letters, IsLetter letter) :
      IsString ('"' :: letters.flatten ++ ['"'])

/-- One or more parts with commas between them and blanks around them. -/
inductive Separated (P : List Char → Prop) : List Char → Prop
  | one {before part after : List Char} (front : IsBlank before) (holds : P part) (back : IsBlank after) :
      Separated P (before ++ part ++ after)
  | more {before part after rest : List Char} (front : IsBlank before) (holds : P part) (back : IsBlank after)
      (later : Separated P rest) : Separated P (before ++ part ++ after ++ ',' :: rest)

/-- A key and a value with a colon between them. -/
inductive IsEntry (P : List Char → Prop) : List Char → Prop
  | pair {key before after value : List Char} (named : IsString key) (front : IsBlank before) (back : IsBlank after)
      (holds : P value) : IsEntry P (key ++ before ++ ':' :: (after ++ value))

/-- A value that may hold some words. -/
inductive IsValue (words : List String) : List Char → Prop
  | word {w : String} (known : w ∈ words) : IsValue words w.toList
  | number {cs : List Char} (numeric : IsNumber cs) : IsValue words cs
  | string {cs : List Char} (quoted : IsString cs) : IsValue words cs
  | noItems {blank : List Char} (only : IsBlank blank) : IsValue words ('[' :: blank ++ [']'])
  | items {cs : List Char} (each : Separated (IsValue words) cs) : IsValue words ('[' :: cs ++ [']'])
  | noEntries {blank : List Char} (only : IsBlank blank) : IsValue words ('\x7b' :: blank ++ ['\x7d'])
  | entries {cs : List Char} (each : Separated (IsEntry (IsValue words)) cs) :
      IsValue words ('\x7b' :: cs ++ ['\x7d'])

/-- The words of JSON. -/
def properWords : List String := ["null", "true", "false"]

/-- A text that is one JSON value. -/
def IsJson (s : String) : Prop := IsValue properWords s.toList

/-- The words for numbers that are not finite. -/
def improperWords : List String := ["NaN", "Infinity", "-Infinity"]

/-- A text that is one JSON value up to the words for numbers that are not finite. -/
def IsNearlyJson (s : String) : Prop := IsValue (properWords ++ improperWords) s.toList

/-! ## Numbers -/

section

open Decimal

theorem areDigits_digits (n : ℕ) : AreDigits (digits n) := ⟨digits_ne_nil n, fun _ => isDigit_of_mem_digits⟩

theorem isWhole_digits (n : ℕ) : IsWhole (digits n) := by
  rcases Nat.eq_zero_or_pos n with rfl | positive
  · exact .zero
  · exact .digits (areDigits_digits n) (head?_digits positive)

theorem isNumber_whole (n : ℕ) : IsNumber (digits n) := by
  have unsigned : [] ∈ ([[], ['-']] : List (List Char)) := by simp
  have parts := IsNumber.parts unsigned (isWhole_digits n) .none .none
  simpa using parts

theorem isNumber_int (n : ℤ) : IsNumber (toString n).toList := by
  cases n with
  | ofNat n => exact isNumber_whole n
  | negSucc n =>
      have signed : ['-'] ∈ ([[], ['-']] : List (List Char)) := by simp
      have parts := IsNumber.parts signed (isWhole_digits (n + 1)) .none .none
      rw [List.append_nil, List.append_nil] at parts
      have written : toString (Int.negSucc n) = "-" ++ Nat.repr (n + 1) := rfl
      rw [written, String.toList_append]
      exact parts

theorem isWhole_single {d : Char} (digit : d.isDigit = true) : IsWhole [d] := by
  by_cases zero : d = '0'
  · rw [zero]
    exact .zero
  · exact .digits ⟨List.cons_ne_nil _ _, by simpa using digit⟩ (by simpa using zero)

theorem areDigits_replicate {k : ℕ} (some : k ≠ 0) : AreDigits (List.replicate k '0') :=
  ⟨by simpa using some, isDigit_replicate k⟩

/-- Digits with a point among them, in front of them or behind them. -/
theorem isNumber_positional {ds : List Char} {point : ℤ} {sign : List Char} (signed : sign ∈ [[], ['-']])
    (digits : AreDigits ds) (first : ds.head? ≠ some '0' ∨ ds = ['0'] ∧ point = 1) :
    IsNumber (sign ++ positional ds point) := by
  rw [positional]
  split
  · have behind : AreDigits (List.replicate (-point).toNat '0' ++ ds) :=
      ⟨List.append_ne_nil_of_right_ne_nil _ digits.some,
        List.forall_mem_append.2 ⟨isDigit_replicate _, digits.each⟩⟩
    have parts := IsNumber.parts signed .zero (.point behind) .none
    simpa using parts
  · rename_i within
    obtain ⟨k, rfl⟩ : ∃ k : ℕ, point = k + 1 := ⟨(point - 1).toNat, by omega⟩
    have whole : IsWhole (ds.take (k + 1) ++ List.replicate (k + 1 - ds.length) '0') := by
      obtain ⟨d, rest, rfl⟩ := List.exists_cons_of_ne_nil digits.some
      -- a zero in front of the point stands alone
      rcases first with nonzero | ⟨single, one⟩
      · refine .digits ⟨by simp, List.forall_mem_append.2
          ⟨fun c member => digits.each c (List.mem_of_mem_take member), isDigit_replicate _⟩⟩ ?_
        simpa using nonzero
      · obtain ⟨rfl, rfl⟩ := List.cons.inj single
        obtain rfl : k = 0 := by omega
        exact .zero
    have behind : AreDigits (if (ds.drop (k + 1)).isEmpty then ['0'] else ds.drop (k + 1)) := by
      split
      · exact areDigits_replicate (Nat.succ_ne_zero 0)
      · rename_i some
        exact ⟨by simpa using some, fun c member => digits.each c (List.mem_of_mem_drop member)⟩
    have parts := IsNumber.parts signed whole (.point behind) .none
    simpa using parts

/-- Digits with an exponent, the point behind the first where there are more. -/
theorem isNumber_withExponent {ds : List Char} {point : ℤ} {sign : List Char} (signed : sign ∈ [[], ['-']])
    (digits : AreDigits ds) : IsNumber (sign ++ withExponent ds point) := by
  have scale : IsExponent (exponentMark (point - 1)) := by
    rw [exponentMark_eq]
    have number : AreDigits (padded 2 (point - 1).natAbs) := ⟨padded_ne_nil _ _, fun _ => isDigit_of_mem_padded⟩
    by_cases negative : point - 1 < 0
    · have minus : ['-'] ∈ ([[], ['+'], ['-']] : List (List Char)) := by simp
      rw [if_pos negative]
      exact .marked (by simp) minus number
    · have plus : ['+'] ∈ ([[], ['+'], ['-']] : List (List Char)) := by simp
      rw [if_neg negative]
      exact .marked (by simp) plus number
  obtain ⟨d, rest, rfl⟩ := List.exists_cons_of_ne_nil digits.some
  have first := isWhole_single (digits.each d (List.mem_cons_self ..))
  cases rest with
  | nil =>
      have parts := IsNumber.parts signed first .none scale
      simpa [withExponent] using parts
  | cons c others =>
      have behind : AreDigits (c :: others) :=
        ⟨List.cons_ne_nil _ _, fun x member => digits.each x (List.mem_cons_of_mem _ member)⟩
      have parts := IsNumber.parts signed first (.point behind) scale
      simpa [withExponent] using parts

/-- Digits of a positive number keep their first one when the zeros at the end are dropped. -/
theorem head?_dropTrailingZeros {n : ℕ} (positive : 0 < n) :
    dropTrailingZeros (digits n) ≠ [] ∧ (dropTrailingZeros (digits n)).head? ≠ some '0' := by
  obtain ⟨k, whole⟩ := exists_dropTrailingZeros (digits n)
  have first := head?_digits positive
  rw [whole] at first
  cases kept : dropTrailingZeros (digits n) with
  | nil =>
      rw [kept] at whole first
      have some : k ≠ 0 := by
        rintro rfl
        exact digits_ne_nil n whole
      obtain ⟨j, rfl⟩ := Nat.exists_eq_succ_of_ne_zero some
      exact absurd rfl first
  | cons d rest =>
      rw [kept] at first
      exact ⟨List.cons_ne_nil _ _, first⟩

/-- A finite number is written as a number. -/
theorem isNumber_shortest {x : Float} (finite : x.isFinite = true) : IsNumber (shortest x).toList := by
  obtain ⟨parts, found⟩ : ∃ parts, finite? x = some parts := ⟨_, if_pos finite⟩
  have written : shortest x = String.ofList (writeFinite parts) := by rw [shortest, found]
  rw [written, String.toList_ofList]
  have split (body : List Char) : (if parts.negative then '-' :: body else body) =
      (if parts.negative then ['-'] else []) ++ body := by
    cases parts.negative <;> rfl
  have signed : (if parts.negative then ['-'] else []) ∈ ([[], ['-']] : List (List Char)) := by
    cases parts.negative <;> simp
  rw [writeFinite, split]
  generalize (if parts.negative then ['-'] else []) = sign at signed ⊢
  rcases Nat.eq_zero_or_pos parts.m with zero | positive
  · simp only [zero, if_true]
    exact isNumber_positional signed (areDigits_replicate (Nat.succ_ne_zero 0)) (.inr ⟨rfl, rfl⟩)
  · simp only [positive.ne', if_false]
    obtain ⟨filled, first⟩ := head?_dropTrailingZeros (digits_shortest_pos found positive)
    obtain ⟨k, whole⟩ := exists_dropTrailingZeros (digits parts.shortest.digits)
    have kept : AreDigits (dropTrailingZeros (digits parts.shortest.digits)) := by
      refine ⟨filled, fun c member => isDigit_of_mem_digits (n := parts.shortest.digits) ?_⟩
      rw [whole]
      exact List.mem_append_left _ member
    split_ifs
    · exact isNumber_positional signed kept (.inl first)
    · exact isNumber_withExponent signed kept

end

/-! ## Strings -/

theorem hexDigit_isSome {n : ℕ} (small : n < 16) : (hexValue? (Text.Quoted.hexDigit n)).isSome = true := by
  have all : ∀ n < 16, (hexValue? (Text.Quoted.hexDigit n)).isSome = true := by decide
  exact all n small

theorem length_hex (width n : ℕ) : (Text.Quoted.hex width n).length = width := by
  induction width generalizing n with
  | zero => rfl
  | succ width ih => rw [Text.Quoted.hex, List.length_append, ih, List.length_singleton]

theorem isSome_of_mem_hex {width n : ℕ} {c : Char} (member : c ∈ Text.Quoted.hex width n) :
    (hexValue? c).isSome = true := by
  induction width generalizing n with
  | zero => cases member
  | succ width ih =>
      rw [Text.Quoted.hex, List.mem_append, List.mem_singleton] at member
      rcases member with earlier | rfl
      · exact ih earlier
      · exact hexDigit_isSome (Nat.mod_lt _ (by decide))

theorem isLetter_escapeChar (c : Char) : IsLetter (escapeChar c) := by
  rw [escapeChar]
  split_ifs with quote backslash feed carriage tab back form control
  · exact .escape (by decide)
  · exact .escape (by decide)
  · exact .escape (by decide)
  · exact .escape (by decide)
  · exact .escape (by decide)
  · exact .escape (by decide)
  · exact .escape (by decide)
  · exact .code (length_hex 4 _) fun _ => isSome_of_mem_hex
  · exact .plain (by simpa using quote) (by simpa using backslash) (Nat.le_of_not_lt control)

theorem isString_writeString (s : String) : IsString (writeString s).toList := by
  have each : ∀ letter ∈ s.toList.map escapeChar, IsLetter letter := by
    intro letter member
    obtain ⟨c, -, rfl⟩ := List.mem_map.1 member
    exact isLetter_escapeChar c
  rw [writeString, String.toList_ofList, List.flatMap_def]
  exact .letters each

/-! ## Values -/

end Triage.Json

namespace Triage.Data

mutual

/-- No number in a value is infinite or not a number. -/
def allFinite : Data → Bool
  | .float x => x.isFinite
  | .list items | .tuple items | .set items => allFiniteItems items
  | .map entries => allFiniteEntries entries
  | _ => true

def allFiniteItems : List Data → Bool
  | [] => true
  | item :: rest => item.allFinite && allFiniteItems rest

def allFiniteEntries : List (Data × Data) → Bool
  | [] => true
  | (_, item) :: rest => item.allFinite && allFiniteEntries rest

end

@[simp] theorem allFinite_bool (b : Bool) : (Data.bool b).allFinite = true := rfl

@[simp] theorem allFinite_int (n : ℤ) : (Data.int n).allFinite = true := rfl

@[simp] theorem allFinite_text (s : String) : (Data.text s).allFinite = true := rfl

@[simp] theorem allFinite_list (items : List Data) : (Data.list items).allFinite = items.all allFinite := by
  rw [allFinite]
  induction items with
  | nil => rfl
  | cons item rest ih => rw [allFiniteItems, ih, List.all_cons]

@[simp] theorem allFinite_record (fields : List (String × Data)) :
    (record fields).allFinite = fields.all fun field => field.2.allFinite := by
  rw [record, allFinite]
  induction fields with
  | nil => rfl
  | cons field rest ih => rw [List.map_cons, allFiniteEntries, ih, List.all_cons]

end Triage.Data

namespace Triage.Json

theorem isBlank_lineBreak (level : ℕ) : IsBlank (lineBreak level).toList := by
  intro c member
  rw [lineBreak, String.toList_append, List.mem_append] at member
  rcases member with feed | blank
  · obtain rfl := List.mem_singleton.1 feed
    rfl
  · rw [String.toList_ofList] at blank
    obtain rfl := List.eq_of_mem_replicate blank
    rfl

theorem isBlank_nil : IsBlank [] := by
  rintro _ ⟨⟩

/-- Parts with commas and blanks between them, and blanks in front and behind. -/
theorem separated_intercalate {P : List Char → Prop} {gap last : String} (front : IsBlank gap.toList)
    (back : IsBlank last.toList) {texts : List String} (some : texts ≠ []) (each : ∀ t ∈ texts, P t.toList) :
    Separated P (gap ++ ("," ++ gap).intercalate texts ++ last).toList := by
  induction texts with
  | nil => exact absurd rfl some
  | cons t rest ih =>
      obtain ⟨here, later⟩ := List.forall_mem_cons.1 each
      cases rest with
      | nil =>
          rw [String.intercalate_singleton, String.toList_append, String.toList_append]
          exact .one front here back
      | cons u others =>
          have more := Separated.more front here isBlank_nil (ih (List.cons_ne_nil _ _) later)
          rw [String.intercalate_cons_cons]
          simpa [String.toList_append] using more

/-- The words allow for every number in a value. -/
def Suffice (words : List String) (finite : Bool) : Prop :=
  (∀ w ∈ properWords, w ∈ words) ∧ ((∀ w ∈ improperWords, w ∈ words) ∨ finite = true)

variable {words : List String}

theorem Suffice.and {a b : Bool} (suffice : Suffice words (a && b)) : Suffice words a ∧ Suffice words b := by
  obtain ⟨proper, improper | finite⟩ := suffice
  · exact ⟨⟨proper, .inl improper⟩, proper, .inl improper⟩
  · obtain ⟨first, second⟩ := Bool.and_eq_true_iff.1 finite
    exact ⟨⟨proper, .inr first⟩, proper, .inr second⟩

/-- All the words together allow for every number. -/
theorem suffice_words (finite : Bool) : Suffice (properWords ++ improperWords) finite :=
  ⟨fun _ => List.mem_append_left _, .inl fun _ => List.mem_append_right _⟩

theorem isValue_writeFloat {x : Float} (suffice : Suffice words x.isFinite) : IsValue words (writeFloat x).toList := by
  by_cases finite : x.isFinite = true
  · have number : writeFloat x = Decimal.shortest x := by
      rw [writeFloat, (Decimal.ordinary_of_isFinite finite).1, finite]
      rfl
    rw [number]
    exact .number (isNumber_shortest finite)
  · obtain improper := suffice.2.resolve_right finite
    rw [writeFloat]
    split_ifs
    · exact .word (improper _ (by decide))
    · exact .word (improper _ (by decide))
    · exact .word (improper _ (by decide))

theorem isValue_brackets {texts : List String} (level : ℕ) (some : texts ≠ [])
    (each : ∀ t ∈ texts, IsValue words t.toList) :
    IsValue words ("[" ++ lineBreak (level + 1) ++ ("," ++ lineBreak (level + 1)).intercalate texts
      ++ lineBreak level ++ "]").toList := by
  have items := IsValue.items
    (separated_intercalate (isBlank_lineBreak (level + 1)) (isBlank_lineBreak level) some each)
  simpa [String.toList_append] using items

theorem isValue_braces {texts : List String} (level : ℕ) (some : texts ≠ [])
    (each : ∀ t ∈ texts, IsEntry (IsValue words) t.toList) :
    IsValue words ("\x7b" ++ lineBreak (level + 1) ++ ("," ++ lineBreak (level + 1)).intercalate texts
      ++ lineBreak level ++ "\x7d").toList := by
  have entries := IsValue.entries
    (separated_intercalate (isBlank_lineBreak (level + 1)) (isBlank_lineBreak level) some each)
  simpa [String.toList_append] using entries

theorem isValue_noItems : IsValue words "[]".toList := .noItems isBlank_nil

theorem isValue_noEntries : IsValue words "\x7b\x7d".toList := .noEntries isBlank_nil

theorem isValue_quoted (text : String) : IsValue words (writeString text).toList := .string (isString_writeString text)

mutual

/-- Whatever is written is a value. -/
theorem isValue_writeAt (level : ℕ) : ∀ d : Data, Suffice words d.allFinite → IsValue words (writeAt level d).toList
  | .null, suffice => .word (suffice.1 "null" (by decide))
  | .bool true, suffice => .word (suffice.1 "true" (by decide))
  | .bool false, suffice => .word (suffice.1 "false" (by decide))
  | .int n, _ => .number (isNumber_int n)
  | .float _, suffice => isValue_writeFloat suffice
  | .text s, _ => isValue_quoted s
  | .octets _, _ => isValue_quoted _
  | .date _, _ => isValue_quoted _
  | .moment _, _ => isValue_quoted _
  | .list [], _ | .tuple [], _ | .set [], _ => by
    rw [writeAt, if_pos List.isEmpty_nil]
    exact isValue_noItems
  | .list (item :: rest), suffice | .tuple (item :: rest), suffice | .set (item :: rest), suffice => by
    rw [writeAt, if_neg (by simp)]
    exact isValue_brackets level (by simp [writeItems]) (each_writeItems (level + 1) (item :: rest) suffice)
  | .map [], _ => by
    rw [writeAt, if_pos List.isEmpty_nil]
    exact isValue_noEntries
  | .map (entry :: rest), suffice => by
    rw [writeAt, if_neg (by simp)]
    exact isValue_braces level (by simp [writeEntries]) (each_writeEntries (level + 1) (entry :: rest) suffice)

theorem each_writeItems (level : ℕ) : ∀ items : List Data, Suffice words (Data.allFiniteItems items) →
    ∀ t ∈ writeItems level items, IsValue words t.toList
  | [], _ => by
    rintro _ ⟨⟩
  | item :: rest, suffice => by
    obtain ⟨here, later⟩ := suffice.and
    exact List.forall_mem_cons.2 ⟨isValue_writeAt level item here, each_writeItems level rest later⟩

theorem each_writeEntries (level : ℕ) : ∀ entries : List (Data × Data), Suffice words (Data.allFiniteEntries entries) →
    ∀ t ∈ writeEntries level entries, IsEntry (IsValue words) t.toList
  | [], _ => by
    rintro _ ⟨⟩
  | (key, item) :: rest, suffice => by
    obtain ⟨here, later⟩ := suffice.and
    have blank : IsBlank [' '] := by simp [IsBlank, isSpace]
    have entry := IsEntry.pair (isString_writeString (keyText key)) isBlank_nil blank (isValue_writeAt level item here)
    refine List.forall_mem_cons.2 ⟨?_, each_writeEntries level rest later⟩
    simpa [String.toList_append] using entry

end

/-- Whatever is written is one value up to the words for numbers that are not finite. -/
theorem isNearlyJson_write (d : Data) : IsNearlyJson (write d) :=
  isValue_writeAt 0 d (suffice_words _)

theorem isJson_write {d : Data} (finite : d.allFinite = true) : IsJson (write d) := by
  have proper : Suffice properWords d.allFinite := ⟨fun _ => id, .inr finite⟩
  exact isValue_writeAt 0 d proper

end Triage.Json
