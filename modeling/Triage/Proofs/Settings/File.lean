import Mathlib.Data.List.Induction
import Triage.Proofs.Text.Blank
import Triage.Proofs.Text.Lines
import Triage.Proofs.Text.Utf8
import Triage.Settings

/-!
# Settings files

A settings file is a sequence of lines. Some of them have a key and a value between marks of quotation; these are read
back whatever else the values hold. The others have nothing to read.
-/

namespace Triage

/-- Of equal keys the last value counts. -/
theorem Table.get?_ofList {α : Type} (entries : List (String × α)) (key : String) :
    (Table.ofList entries).get? key = entries.reverse.lookup key := by
  induction entries using List.reverseRecOn with
  | nil => rfl
  | append_singleton entries entry ih =>
      have last : ofList (entries ++ [entry]) = (ofList entries).put entry.1 entry.2 := by
        rw [ofList, List.foldl_append]
        rfl
      rw [last, get?_put, ih, List.reverse_append, List.reverse_singleton, List.singleton_append, List.lookup_cons]
      cases beq : key == entry.1 with
      | true => rw [if_pos (beq_iff_eq.1 beq)]
      | false => rw [if_neg (beq_eq_false_iff_ne.1 beq)]

theorem filterMap_cons_eq {α β : Type} (f : α → Option β) (x : α) (rest : List α) :
    (x :: rest).filterMap f = (f x).toList ++ rest.filterMap f := by
  cases given : f x with
  | none => rw [List.filterMap_cons_none given]; rfl
  | some y => rw [List.filterMap_cons_some given]; rfl

namespace Settings

/-! ## The lines of a file -/

/-- Nothing ends a line within a text. -/
def Unbroken (text : String) : Prop := '\n' ∉ text.toList ∧ '\r' ∉ text.toList

instance (text : String) : Decidable (Unbroken text) := inferInstanceAs (Decidable (_ ∧ _))

structure IsKey (key : String) : Prop where
  unbroken : Unbroken key
  stripped : Text.strip key = key
  noEquals : '=' ∉ key.toList
  noComment : key.toList.head? ≠ some '#'

instance (key : String) : Decidable (IsKey key) :=
  decidable_of_iff (Unbroken key ∧ Text.strip key = key ∧ '=' ∉ key.toList ∧ key.toList.head? ≠ some '#')
    ⟨fun ⟨unbroken, stripped, noEquals, noComment⟩ => ⟨unbroken, stripped, noEquals, noComment⟩,
      fun ⟨unbroken, stripped, noEquals, noComment⟩ => ⟨unbroken, stripped, noEquals, noComment⟩⟩

/-- A line without a value: a blank one, a comment, or one without an equals sign. -/
def IsIdle (text : String) : Prop :=
  Text.isBlankText text = true ∨ (text.toList.dropWhile Text.isBlank).head? = some '#' ∨ '=' ∉ text.toList

instance (text : String) : Decidable (IsIdle text) := inferInstanceAs (Decidable (_ ∨ _))

/-- A line with a pair. -/
def quotedPair (key value : String) : List Char := key.toList ++ '=' :: '"' :: (value.toList ++ ['"'])

inductive Line where
  | pair (key value : String) (isKey : IsKey key) (unbroken : Unbroken value)
  | idle (text : String) (unbroken : Unbroken text) (isIdle : IsIdle text)

namespace Line

def text : Line → List Char
  | .pair key value _ _ => quotedPair key value
  | .idle text _ _ => text.toList

def entry? : Line → Option (String × String)
  | .pair key value _ _ => some (key, value)
  | .idle _ _ _ => none

end Line

def IsMark (c : Char) : Prop := c = '"' ∨ c = '\''

theorem unquote_of_ends {mark : Char} {value : List Char} (isMark : IsMark mark) (starts : value.head? = some mark)
    (ends : value.getLast? = some mark) : unquote value = value.tail.dropLast := by
  rcases isMark with rfl | rfl <;> simp [unquote, starts, ends]

/-- Two marks around a text are taken off. -/
theorem unquote_quoted {mark : Char} (isMark : IsMark mark) (inner : List Char) :
    unquote (mark :: (inner ++ [mark])) = inner := by
  have ends : (mark :: (inner ++ [mark])).getLast? = some mark := by rw [← List.cons_append, List.getLast?_concat]
  rw [unquote_of_ends isMark rfl ends, List.tail_cons, List.dropLast_concat]

/-- Nothing is stripped from a value between marks of quotation. -/
theorem trimBy_quoted (value : List Char) :
    Text.trimBy Text.isBlank ('"' :: (value ++ ['"'])) = '"' :: (value ++ ['"']) := by
  rw [Text.trimBy_eq_self_iff, ← List.cons_append, List.getLast?_concat]
  exact ⟨by rintro _ ⟨⟩; decide, by rintro _ ⟨⟩; decide⟩

/-- What stands before the first equals sign of a line, and what stands behind it. -/
theorem split_at_equals {before : List Char} (first : '=' ∉ before) (after : List Char) :
    (before ++ '=' :: after).takeWhile (· != '=') = before ∧
      ((before ++ '=' :: after).dropWhile (· != '=')).tail = after := by
  have others : ∀ c ∈ before, (c != '=') = true := fun c member => bne_iff_ne.2 fun same => first (same ▸ member)
  rw [List.takeWhile_append_of_pos others, List.dropWhile_append_of_pos others]
  simp

/-- A line with an equals sign has a key and a value unless it is a comment. -/
theorem entryOf?_of_split {line before after : List Char}
    (whole : Text.trimBy Text.isBlank line = before ++ '=' :: after) (first : '=' ∉ before) :
    entryOf? line = if before.head? = some '#' then none
      else some (String.ofList (Text.trimBy Text.isBlank before),
        String.ofList (unquote (Text.trimBy Text.isBlank after))) := by
  obtain ⟨front, behind⟩ := split_at_equals first after
  have equals : (before ++ '=' :: after).contains '=' = true := by simp
  have comment : (before ++ '=' :: after).head? = some '#' ↔ before.head? = some '#' := by
    cases before <;> simp
  simp only [entryOf?, whole, equals, Bool.not_true, Bool.or_false, beq_iff_eq, comment, front, behind]

section Pair

variable {key value : String} {c : Char}

/-- A line with a pair begins with its key, or with the equals sign. -/
theorem first_quotedPair (isKey : IsKey key) (first : c ∈ (quotedPair key value).head?) :
    Text.isBlank c = false ∧ c ≠ '#' := by
  rw [quotedPair, List.head?_append] at first
  cases start : key.toList.head? with
  | none =>
      rw [start] at first
      cases first
      decide
  | some d =>
      rw [start] at first
      cases first
      have trimmed := Text.strip_eq_self_iff.1 isKey.stripped
      exact ⟨(Text.trimBy_eq_self_iff.1 trimmed).1 c start, fun same => isKey.noComment (same ▸ start)⟩

theorem trimBy_quotedPair (isKey : IsKey key) :
    Text.trimBy Text.isBlank (quotedPair key value) = quotedPair key value := by
  have last : (quotedPair key value).getLast? = some '"' := by
    rw [quotedPair, List.append_cons, ← List.cons_append, ← List.append_assoc, List.getLast?_concat]
  rw [Text.trimBy_eq_self_iff, last]
  exact ⟨fun c first => (first_quotedPair isKey first).1, by rintro _ ⟨⟩; decide⟩

theorem entryOf?_quotedPair (isKey : IsKey key) : entryOf? (quotedPair key value) = some (key, value) := by
  rw [entryOf?_of_split (trimBy_quotedPair isKey) isKey.noEquals, if_neg isKey.noComment, trimBy_quoted,
    unquote_quoted (.inl rfl), Text.strip_eq_self_iff.1 isKey.stripped, String.ofList_toList, String.ofList_toList]

end Pair

theorem entryOf?_idle {text : String} (idle : IsIdle text) : entryOf? text.toList = none := by
  refine if_pos ?_
  rw [Bool.or_eq_true, beq_iff_eq, Bool.not_eq_true', Text.head?_trimBy]
  rcases idle with blank | comment | plain
  · rw [Text.trimBy_eq_nil_iff.2 (List.all_eq_true.1 blank)]
    exact .inr rfl
  · exact .inl comment
  · refine .inr (Bool.eq_false_iff.2 fun equals => plain (Text.mem_of_mem_trimBy (List.contains_iff_mem.1 equals)))

theorem Line.entryOf?_text (line : Line) : entryOf? line.text = line.entry? := by
  cases line with
  | pair key value isKey unbroken => exact entryOf?_quotedPair isKey
  | idle text unbroken isIdle => exact entryOf?_idle isIdle

theorem Line.unbroken_text (line : Line) : '\n' ∉ line.text ∧ '\r' ∉ line.text := by
  cases line with
  | pair key value isKey unbroken =>
      obtain ⟨keyFeed, keyReturn⟩ := isKey.unbroken
      obtain ⟨valueFeed, valueReturn⟩ := unbroken
      constructor <;> simp [Line.text, quotedPair, *]
  | idle text unbroken isIdle => exact unbroken

/-! ## Line breaks -/

/-- What may end a line. -/
inductive Break where
  | feed
  | carriage
  | both

def Break.text : Break → List Char
  | .feed => ['\n']
  | .carriage => ['\r']
  | .both => ['\r', '\n']

/-- The keys and values of a list of characters. -/
def pairsIn (cs : List Char) : List (String × String) :=
  ((Text.unifyBreaks cs).splitOn '\n').filterMap entryOf?

variable {line rest rest' : List Char}

theorem pairsIn_of_unified (unbroken : '\n' ∉ line ∧ '\r' ∉ line)
    (ended : Text.unifyBreaks rest = '\n' :: Text.unifyBreaks rest') :
    pairsIn (line ++ rest) = (entryOf? line).toList ++ pairsIn rest' := by
  rw [pairsIn, Text.unifyBreaks_append unbroken.2, ended, List.splitOn_append_cons_self_of_not_mem unbroken.1,
    filterMap_cons_eq, pairsIn]

theorem pairsIn_line (unbroken : '\n' ∉ line ∧ '\r' ∉ line) (ending : Break) (rest : List Char) :
    pairsIn (line ++ (ending.text ++ rest)) = (entryOf? line).toList ++ pairsIn rest := by
  cases ending with
  | feed => exact pairsIn_of_unified unbroken rfl
  | both => exact pairsIn_of_unified unbroken rfl
  | carriage =>
      cases rest with
      | nil => exact pairsIn_of_unified unbroken rfl
      | cons c rest =>
          by_cases fed : c = '\n'
          -- A line feed behind it belongs to the break. It would end an empty line otherwise.
          · subst fed
            have empty : pairsIn ('\n' :: rest) = pairsIn rest :=
              pairsIn_of_unified ⟨List.not_mem_nil, List.not_mem_nil⟩ rfl
            rw [empty]
            exact pairsIn_of_unified unbroken rfl
          · refine pairsIn_of_unified unbroken ?_
            change Text.unifyBreaks ('\r' :: c :: rest) = _
            rw [Text.unifyBreaks]
            rintro _ ⟨rfl, -⟩
            exact fed rfl

/-! ## Files -/

/-- The lines of a file with what ends them, and the one at its end, which may be empty. -/
structure File where
  lines : List (Line × Break)
  last : Line

namespace File

def text (f : File) : String :=
  String.ofList (f.lines.flatMap (fun line => line.1.text ++ line.2.text) ++ f.last.text)

/-- The pairs of all lines in order. -/
def pairs (f : File) : List (String × String) := (f.lines.map Prod.fst ++ [f.last]).filterMap Line.entry?

theorem pairsIn_text (f : File) : pairsIn f.text.toList = f.pairs := by
  obtain ⟨lines, last⟩ := f
  rw [text, String.toList_ofList, pairs]
  induction lines with
  | nil =>
      obtain ⟨feed, carriage⟩ := last.unbroken_text
      rw [List.flatMap_nil, List.nil_append, pairsIn, Text.unifyBreaks_eq_self carriage, List.splitOn_eq_singleton feed,
        List.map_nil, List.nil_append, filterMap_cons_eq, last.entryOf?_text, filterMap_cons_eq]
      rfl
  | cons first lines ih =>
      rw [List.flatMap_cons, List.append_assoc, List.append_assoc, pairsIn_line first.1.unbroken_text, ih,
        first.1.entryOf?_text, List.map_cons, List.cons_append, filterMap_cons_eq]

end File

/-- A settings file that can be read is what the settings come from. -/
theorem ofFile?_of_read {cwd : Path} {tree : FileTree} {bytes : List UInt8} {table : Table String}
    (stored : tree.read cwd (Path.text (cwd ++ fileName)) = .ok bytes)
    (parsed : (Text.Utf8.decodePieces pieceSize bytes).map entries = .ok table) :
    ofFile? cwd tree = some (ofSource (Path.text (cwd ++ fileName)) table) := by
  obtain ⟨text, decoded, rfl⟩ := map_eq_ok_iff.1 parsed
  rw [ofFile?]
  cases found : tree.find cwd (Path.text (cwd ++ fileName)) with
  | error problem =>
      rw [FileTree.read, found] at stored
      cases stored
  | ok place => simp only [stored, decoded, Except.mapError, bind, Except.bind]

/-- Whatever the values between marks of quotation hold, each key is read with the last value that the lines of the
file have for it. -/
theorem pairs_are_read (f : File) :
    ∃ table, (Text.Utf8.decodePieces pieceSize (Text.Utf8.encode f.text)).map entries = .ok table ∧
      (∀ key, table.get? key = f.pairs.reverse.lookup key) ∧
      ∀ cwd tree, tree.read cwd (Path.text (cwd ++ fileName)) = .ok (Text.Utf8.encode f.text) →
        ofFile? cwd tree = some (ofSource (Path.text (cwd ++ fileName)) table) := by
  have parsed : (Text.Utf8.decodePieces pieceSize (Text.Utf8.encode f.text)).map entries = .ok (.ofList f.pairs) := by
    rw [Text.Utf8.decodePieces_encode, ← f.pairsIn_text]
    rfl
  exact ⟨_, parsed, Table.get?_ofList f.pairs, fun _ _ stored => ofFile?_of_read stored parsed⟩

/-- A file with marks, equals signs and blanks in its values, a key that comes twice, and every line break. -/
def noted : File where
  lines := [(.idle " # \"log\" = here" (by decide) (by decide), .both),
    (.pair "LOG_FILE" "a = \"b\" # c " (by decide) (by decide), .feed), (.idle "" (by decide) (by decide), .carriage),
    (.pair "LOG_LEVEL" "debug" (by decide) (by decide), .carriage), (.idle "log" (by decide) (by decide), .feed)]
  last := .pair "LOG_FILE" " \"'" (by decide) (by decide)

/-- A working directory with that settings file. -/
def noting : FileTree :=
  (FileTree.empty.put [".issueflow"] .directory).put fileName (.file (Text.Utf8.encode noted.text))

theorem noted_is_read :
    ∃ table, (Text.Utf8.decodePieces pieceSize (Text.Utf8.encode noted.text)).map entries = .ok table ∧
      table.get? "LOG_FILE" = some " \"'" ∧ table.get? "LOG_LEVEL" = some "debug" ∧ table.get? "log" = none ∧
      ofFile? [] noting = some (ofSource "/.issueflow/config" table) := by
  obtain ⟨table, parsed, last, loaded⟩ := pairs_are_read noted
  have place : Path.text ([] ++ fileName) = "/.issueflow/config" := by decide
  have stored : noting.read [] (Path.text ([] ++ fileName)) = .ok (Text.Utf8.encode noted.text) :=
    eq_ok_of_toOption (by decide +kernel)
  have found := loaded [] noting stored
  rw [place] at found
  refine ⟨table, parsed, ?_, ?_, ?_, found⟩ <;> rw [last] <;> decide

end Settings

end Triage
