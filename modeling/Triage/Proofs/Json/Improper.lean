import Triage.Proofs.Json.Grammar

/-!
# Words that are not JSON

The words for numbers that are not finite begin with capitals that stand in no JSON value outside of strings. So a
value is written as JSON only if its numbers are finite.
-/

namespace Triage.Json

/-! ## Outside of strings -/

/-- Where a scan of a text is with respect to its strings. -/
inductive Side where
  | outside
  | inside
  /-- Inside, behind a backslash. -/
  | escaped
deriving DecidableEq

namespace Side

def next : Side → Char → Side
  | .outside, c => if c = '"' then .inside else .outside
  | .inside, c => if c = '"' then .outside else if c = '\\' then .escaped else .inside
  | .escaped, _ => .inside

def after (s : Side) (cs : List Char) : Side := cs.foldl next s

theorem after_append (s : Side) (xs ys : List Char) : s.after (xs ++ ys) = (s.after xs).after ys := List.foldl_append

end Side

/-- The characters of a text outside of its strings, with the quotes that open them. -/
def bare (s : Side) : List Char → List Char
  | [] => []
  | c :: rest => if s = .outside then c :: bare (s.next c) rest else bare (s.next c) rest

theorem bare_append (s : Side) (xs ys : List Char) : bare s (xs ++ ys) = bare s xs ++ bare (s.after xs) ys := by
  induction xs generalizing s with
  | nil => rfl
  | cons c rest ih =>
      rw [List.cons_append, bare, bare, ih]
      split
      · rfl
      · rfl

/-- The capitals that the words for numbers that are not finite begin with. -/
def capitals : List Char := ['N', 'I']

/-- Every string is closed, and a capital outside of strings is that of a word. -/
structure Calm (words : List String) (cs : List Char) : Prop where
  closed : Side.outside.after cs = .outside
  fromWords : ∀ c ∈ bare .outside cs, c ∈ capitals → ∃ w ∈ words, c ∈ w.toList

variable {words : List String}

namespace Calm

theorem nil : Calm words [] := ⟨rfl, by rintro _ ⟨⟩⟩

theorem append {xs ys : List Char} (first : Calm words xs) (second : Calm words ys) : Calm words (xs ++ ys) := by
  refine ⟨?_, ?_⟩
  · rw [Side.after_append, first.closed, second.closed]
  · rw [bare_append, first.closed]
    exact List.forall_mem_append.2 ⟨first.fromWords, second.fromWords⟩

theorem single {c : Char} (other : c ≠ '"') (known : c ∈ capitals → ∃ w ∈ words, c ∈ w.toList) : Calm words [c] := by
  refine ⟨?_, ?_⟩
  · simp [Side.after, Side.next, other]
  · simpa [bare] using known

theorem ofForall {cs : List Char}
    (each : ∀ c ∈ cs, c ≠ '"' ∧ (c ∈ capitals → ∃ w ∈ words, c ∈ w.toList)) : Calm words cs := by
  induction cs with
  | nil => exact nil
  | cons c rest ih =>
      obtain ⟨⟨other, known⟩, later⟩ := List.forall_mem_cons.1 each
      exact append (single other known) (ih later)

/-- A mark that is neither a quote nor a capital. -/
theorem mark {c : Char} (known : c ≠ '"' ∧ c ∉ capitals) : Calm words [c] :=
  single known.1 fun capital => absurd capital known.2

/-- Marks that are neither quotes nor capitals. -/
theorem marks {cs : List Char} (known : ∀ c ∈ cs, c ≠ '"' ∧ c ∉ capitals) : Calm words cs :=
  ofForall fun c member => ⟨(known c member).1, fun capital => absurd capital (known c member).2⟩

end Calm

/-! ## Values -/

theorem AreDigits.plain {cs : List Char} (digits : AreDigits cs) : ∀ c ∈ cs, c ≠ '"' ∧ c ∉ capitals := by
  intro c member
  have digit := digits.each c member
  constructor
  · rintro rfl
    exact absurd digit (by decide)
  · intro capital
    have letters : ∀ c ∈ capitals, c.isDigit = false := by simp [capitals]
    exact absurd digit (by simp [letters c capital])

theorem IsBlank.calm {cs : List Char} (blank : IsBlank cs) : Calm words cs := by
  refine .marks fun c member => ?_
  have space := blank c member
  constructor
  · rintro rfl
    exact absurd space (by decide)
  · intro capital
    have letters : ∀ c ∈ capitals, isSpace c = false := by simp [capitals, isSpace]
    exact absurd space (by simp [letters c capital])

theorem IsNumber.calm {cs : List Char} (number : IsNumber cs) : Calm words cs := by
  obtain ⟨signed, whole, fraction, exponent⟩ := number
  have sign {sign : List Char} {signs : List (List Char)} (known : sign ∈ signs)
      (each : ∀ sign ∈ signs, ∀ c ∈ sign, c ≠ '"' ∧ c ∉ capitals) : Calm words sign :=
    .marks (each sign known)
  refine .append (.append (.append (sign signed (by simp [capitals])) ?_) ?_) ?_
  · cases whole with
    | zero => exact .mark (by decide)
    | digits digits first => exact .marks digits.plain
  · cases fraction with
    | none => exact .nil
    | point digits => exact .append (.mark (by decide)) (.marks digits.plain)
  · cases exponent with
    | none => exact .nil
    | marked known signed digits =>
        have mark : ∀ c ∈ ['e', 'E'], c ≠ '"' ∧ c ∉ capitals := by simp [capitals]
        exact .append (.mark (mark _ known)) (.append (sign signed (by simp [capitals])) (.marks digits.plain))

/-- A scan stays inside of a string. -/
def Stays (cs : List Char) : Prop := Side.inside.after cs = .inside ∧ bare .inside cs = []

theorem Stays.append {xs ys : List Char} (first : Stays xs) (second : Stays ys) : Stays (xs ++ ys) := by
  refine ⟨?_, ?_⟩
  · rw [Side.after_append, first.1, second.1]
  · rw [bare_append, first.1, first.2, second.2]
    rfl

theorem Stays.plain {c : Char} (quote : c ≠ '"') (escape : c ≠ '\\') : Stays [c] := by
  simp [Stays, Side.after, Side.next, bare, quote, escape]

theorem IsLetter.stays {cs : List Char} (letter : IsLetter cs) : Stays cs := by
  cases letter with
  | plain quote escape => exact .plain quote escape
  | escape => exact ⟨rfl, rfl⟩
  | @code digits four hex =>
      have escaped : Stays ['\\', 'u'] := ⟨rfl, rfl⟩
      have behind : Stays digits := by
        clear four
        induction digits with
        | nil => exact ⟨rfl, rfl⟩
        | cons c rest ih =>
            obtain ⟨here, later⟩ := List.forall_mem_cons.1 hex
            refine .append (.plain ?_ ?_) (ih later)
            · rintro rfl
              exact absurd here (by decide)
            · rintro rfl
              exact absurd here (by decide)
      exact escaped.append behind

theorem IsString.calm {cs : List Char} (quoted : IsString cs) : Calm words cs := by
  obtain ⟨each⟩ := quoted
  rename_i letters
  have stays : Stays letters.flatten := by
    induction letters with
    | nil => exact ⟨rfl, rfl⟩
    | cons letter rest ih =>
        obtain ⟨here, later⟩ := List.forall_mem_cons.1 each
        exact here.stays.append (ih later)
  refine ⟨?_, ?_⟩
  · rw [Side.after_append]
    change Side.after (Side.inside.after letters.flatten) ['"'] = .outside
    rw [stays.1]
    rfl
  · have opened : bare .outside ('"' :: letters.flatten ++ ['"']) =
        '"' :: bare .inside (letters.flatten ++ ['"']) := rfl
    rw [opened, bare_append, stays.1, stays.2]
    change ∀ c ∈ ['"'], _
    simp [capitals]

-- The derivation of a value holds those of its parts behind `Separated` and `IsEntry`, so the recursion is on all
-- of them at once.
mutual

/-- A value is calm if no word holds a quote. -/
theorem IsValue.calm {cs : List Char} (quiet : ∀ w ∈ words, '"' ∉ w.toList) : IsValue words cs → Calm words cs
  | .word known => .ofForall fun c member => ⟨fun same => quiet _ known (same ▸ member), fun _ => ⟨_, known, member⟩⟩
  | .number numeric => numeric.calm
  | .string quoted => quoted.calm
  | .noItems only => .append (.append (.mark (by decide)) only.calm) (.mark (by decide))
  | .items each => .append (.append (.mark (by decide)) (calm_items quiet each)) (.mark (by decide))
  | .noEntries only => .append (.append (.mark (by decide)) only.calm) (.mark (by decide))
  | .entries each => .append (.append (.mark (by decide)) (calm_entries quiet each)) (.mark (by decide))

theorem calm_items {cs : List Char} (quiet : ∀ w ∈ words, '"' ∉ w.toList) : Separated (IsValue words) cs → Calm words cs
  | .one front holds back => .append (.append front.calm (holds.calm quiet)) back.calm
  | .more front holds back later =>
      .append (.append (.append front.calm (holds.calm quiet)) back.calm)
        (.append (.mark (by decide)) (calm_items quiet later))

theorem calm_entries {cs : List Char} (quiet : ∀ w ∈ words, '"' ∉ w.toList) :
    Separated (IsEntry (IsValue words)) cs → Calm words cs
  | .one front holds back => .append (.append front.calm (calm_entry quiet holds)) back.calm
  | .more front holds back later =>
      .append (.append (.append front.calm (calm_entry quiet holds)) back.calm)
        (.append (.mark (by decide)) (calm_entries quiet later))

theorem calm_entry {cs : List Char} (quiet : ∀ w ∈ words, '"' ∉ w.toList) : IsEntry (IsValue words) cs → Calm words cs
  | .pair named front back holds =>
      .append (.append named.calm front.calm) (.append (.mark (by decide)) (.append back.calm (holds.calm quiet)))

end

/-! ## What is written -/

/-- A capital stands outside of the strings of a text. -/
def HasCapital (cs : List Char) : Prop := ∃ c ∈ capitals, c ∈ bare .outside cs

namespace HasCapital

variable {xs ys : List Char}

theorem front (capital : HasCapital xs) (ys : List Char) : HasCapital (xs ++ ys) := by
  obtain ⟨c, known, member⟩ := capital
  refine ⟨c, known, ?_⟩
  rw [bare_append]
  exact List.mem_append_left _ member

theorem back (closed : Side.outside.after xs = .outside) (capital : HasCapital ys) : HasCapital (xs ++ ys) := by
  obtain ⟨c, known, member⟩ := capital
  refine ⟨c, known, ?_⟩
  rw [bare_append, closed]
  exact List.mem_append_right _ member

theorem intercalate {gap t : String} (closedGap : Side.outside.after gap.toList = .outside) {texts : List String}
    (closed : ∀ t ∈ texts, Side.outside.after t.toList = .outside) (member : t ∈ texts)
    (capital : HasCapital t.toList) : HasCapital (gap.intercalate texts).toList := by
  induction texts with
  | nil => cases member
  | cons u rest ih =>
      obtain ⟨here, later⟩ := List.forall_mem_cons.1 closed
      cases rest with
      | nil =>
          obtain rfl := List.mem_singleton.1 member
          rwa [String.intercalate_singleton]
      | cons v others =>
          rw [String.intercalate_cons_cons, String.toList_append, String.toList_append]
          rcases List.mem_cons.1 member with rfl | behind
          · exact (capital.front _).front _
          · refine .back ?_ (ih later behind)
            rw [Side.after_append, here, closedGap]

/-- Brackets around texts show a capital of any of them. -/
theorem between {first last t : String} (level : ℕ) (opened : Side.outside.after first.toList = .outside)
    {texts : List String} (closed : ∀ t ∈ texts, Side.outside.after t.toList = .outside) (member : t ∈ texts)
    (capital : HasCapital t.toList) :
    HasCapital (first ++ lineBreak (level + 1) ++ ("," ++ lineBreak (level + 1)).intercalate texts
      ++ lineBreak level ++ last).toList := by
  have gap : Calm [] (lineBreak (level + 1)).toList := (isBlank_lineBreak (level + 1)).calm
  have comma : Side.outside.after ("," ++ lineBreak (level + 1)).toList = .outside := by
    rw [String.toList_append, Side.after_append]
    exact gap.closed
  simp only [String.toList_append]
  rw [← String.toList_append]
  refine front (front (back ?_ (intercalate comma closed member capital)) _) _
  rw [String.toList_append, Side.after_append, opened, gap.closed]

end HasCapital

/-- All the words that are written. -/
theorem quiet_words : ∀ w ∈ properWords ++ improperWords, '"' ∉ w.toList := by
  simp [properWords, improperWords]

theorem hasCapital_writeFloat {x : Float} (infinite : x.isFinite = false) : HasCapital (writeFloat x).toList := by
  rw [writeFloat, if_neg (by simp [infinite] : ¬x.isFinite = true)]
  split_ifs
  · exact ⟨'N', by simp [capitals], List.mem_cons_self⟩
  · exact ⟨'I', by simp [capitals], List.mem_cons_of_mem _ List.mem_cons_self⟩
  · exact ⟨'I', by simp [capitals], List.mem_cons_self⟩

mutual

/-- A number that is not finite shows by a capital. -/
theorem hasCapital_writeAt (level : ℕ) : ∀ d : Data, d.allFinite = false → HasCapital (writeAt level d).toList
  | .null, finite | .bool _, finite | .int _, finite | .text _, finite | .octets _, finite | .date _, finite
  | .moment _, finite => by cases finite
  | .float _, infinite => hasCapital_writeFloat infinite
  | .list [], finite | .tuple [], finite | .set [], finite | .map [], finite => by cases finite
  | .list (item :: rest), infinite | .tuple (item :: rest), infinite | .set (item :: rest), infinite => by
    obtain ⟨t, member, capital⟩ := exists_capital_items (level + 1) (item :: rest) infinite
    rw [writeAt, if_neg (by simp)]
    refine .between level rfl (fun t member => ?_) member capital
    exact ((each_writeItems (level + 1) (item :: rest) (suffice_words _) t member).calm quiet_words).closed
  | .map (entry :: rest), infinite => by
    obtain ⟨t, member, capital⟩ := exists_capital_entries (level + 1) (entry :: rest) infinite
    rw [writeAt, if_neg (by simp)]
    refine .between level rfl (fun t member => ?_) member capital
    exact (calm_entry quiet_words (each_writeEntries (level + 1) (entry :: rest) (suffice_words _) t member)).closed

theorem exists_capital_items (level : ℕ) : ∀ items : List Data, Data.allFiniteItems items = false →
    ∃ t ∈ writeItems level items, HasCapital t.toList
  | [], finite => by cases finite
  | item :: rest, infinite => by
    cases here : item.allFinite with
    | false => exact ⟨_, List.mem_cons_self, hasCapital_writeAt level item here⟩
    | true =>
        rw [Data.allFiniteItems, here, Bool.true_and] at infinite
        obtain ⟨t, member, capital⟩ := exists_capital_items level rest infinite
        exact ⟨t, List.mem_cons_of_mem _ member, capital⟩

theorem exists_capital_entries (level : ℕ) : ∀ entries : List (Data × Data), Data.allFiniteEntries entries = false →
    ∃ t ∈ writeEntries level entries, HasCapital t.toList
  | [], finite => by cases finite
  | (key, item) :: rest, infinite => by
    cases here : item.allFinite with
    | false =>
        have quoted : Calm [] (writeString (keyText key)).toList := (isString_writeString (keyText key)).calm
        refine ⟨_, List.mem_cons_self, ?_⟩
        rw [String.toList_append, String.toList_append]
        refine .back ?_ (hasCapital_writeAt level item here)
        rw [Side.after_append, quoted.closed]
        rfl
    | true =>
        rw [Data.allFiniteEntries, here, Bool.true_and] at infinite
        obtain ⟨t, member, capital⟩ := exists_capital_entries level rest infinite
        exact ⟨t, List.mem_cons_of_mem _ member, capital⟩

end

/-- What is written is JSON exactly if every number is finite. -/
theorem isJson_write_iff {d : Data} : IsJson (write d) ↔ d.allFinite = true := by
  refine ⟨fun json => ?_, isJson_write⟩
  by_contra infinite
  -- The capital of a number that is not finite would have to be one of a word of JSON.
  obtain ⟨c, capital, member⟩ := hasCapital_writeAt 0 d (Bool.eq_false_of_not_eq_true infinite)
  have quiet : ∀ w ∈ properWords, '"' ∉ w.toList := fun w known => quiet_words w (List.mem_append_left _ known)
  obtain ⟨w, known, inside⟩ := (json.calm quiet).fromWords c member capital
  have small : ∀ w ∈ properWords, ∀ c ∈ w.toList, c ∉ capitals := by simp [properWords, capitals]
  exact small w known c inside capital

end Triage.Json
