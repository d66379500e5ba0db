import Mathlib.Data.List.TakeWhile
import Mathlib.Tactic.Common
import Triage.Text.Lines

/-!
# Stored texts

A text that is stored and read again is the same, up to the form of its line breaks.
-/

namespace Triage.Text.Utf8

/-! ## Octets -/

theorem lengthOf_eq (b : UInt8) : lengthOf b =
    if b.toNat < 0x80 then 1 else if b.toNat < 0xC2 then 0 else if b.toNat < 0xE0 then 2
    else if b.toNat < 0xF0 then 3 else if b.toNat < 0xF5 then 4 else 0 := by
  simp [lengthOf, UInt8.lt_iff_toNat_lt]

theorem isContinuation_iff {b : UInt8} : isContinuation b = true ↔ 0x80 ≤ b.toNat ∧ b.toNat < 0xC0 := by
  simp [isContinuation, UInt8.lt_iff_toNat_lt, UInt8.le_iff_toNat_le]

/-- The second octet fits behind the first one. -/
structure Fits (first second : UInt8) : Prop where
  continues : isContinuation second = true
  notShort : first.toNat = 0xE0 → 0xA0 ≤ second.toNat
  notSurrogate : first.toNat = 0xED → second.toNat < 0xA0
  notShorter : first.toNat = 0xF0 → 0x90 ≤ second.toNat
  notBeyond : first.toNat = 0xF4 → second.toNat < 0x90

variable {first second : UInt8}

theorem Fits.secondRange (fits : Fits first second) :
    (Utf8.secondRange first).1 ≤ second ∧ second ≤ (Utf8.secondRange first).2 := by
  obtain ⟨continues, notShort, notSurrogate, notShorter, notBeyond⟩ := fits
  obtain ⟨least, last⟩ := isContinuation_iff.1 continues
  rw [Utf8.secondRange]
  simp only [beq_iff_eq, ← UInt8.toNat_inj]
  split_ifs <;> simp_all [UInt8.le_iff_toNat_le] <;> omega

theorem fitting_eq {more : List UInt8} (rest : List UInt8) (fits : Fits first second)
    (each : ∀ b ∈ more, isContinuation b = true) :
    fitting first (more.length + 1) (second :: (more ++ rest)) = more.length + 1 := by
  rw [fitting]
  simp only [fits.secondRange, decide_true, Bool.and_self, if_true, List.take_left, List.takeWhile_eq_self_iff.2 each]
  omega

theorem head_eq {n : Nat} (more rest : List UInt8) (length : lengthOf first = more.length + 2)
    (fits : Fits first second) (each : ∀ b ∈ more, isContinuation b = true) (code : codeOf first (second :: more) = n) :
    head first (second :: (more ++ rest)) = .char (Char.ofNat n) (more.length + 2) := by
  have fit := fitting_eq rest fits each
  simp [head, length, fit, code]

theorem head_single (rest : List UInt8) (low : first.toNat < 0x80) :
    head first rest = .char (Char.ofNat first.toNat) 1 := by
  have length : lengthOf first = 1 := by rw [lengthOf_eq, if_pos low]
  simp [head, length, fitting, codeOf]

/-! ## Characters -/

theorem exists_octet {n : Nat} (small : n < 256) : ∃ b, UInt8.ofNat n = b ∧ b.toNat = n :=
  ⟨_, rfl, UInt8.toNat_ofNat_of_lt small⟩

/-- An octet behind the first one holds six bits. -/
theorem exists_continuation (n : Nat) :
    ∃ b, UInt8.ofNat (n % 64 + 128) = b ∧ b.toNat = n % 64 + 128 ∧ isContinuation b = true := by
  obtain ⟨b, octet, value⟩ := exists_octet (n := n % 64 + 128) (by omega)
  exact ⟨b, octet, value, isContinuation_iff.2 (by omega)⟩

variable {n : Nat}

theorem head_two (rest : List UInt8) (least : 0x7F < n) (last : n ≤ 0x7FF) :
    head (UInt8.ofNat (n / 64 % 32 + 192)) (UInt8.ofNat (n % 64 + 128) :: rest) = .char (Char.ofNat n) 2 := by
  obtain ⟨first, octet, value⟩ := exists_octet (n := n / 64 % 32 + 192) (by omega)
  obtain ⟨b, octet₁, value₁, continues⟩ := exists_continuation n
  have length : lengthOf first = 2 := by
    rw [lengthOf_eq]
    split_ifs <;> omega
  have fits : Fits first b := ⟨continues, by omega, by omega, by omega, by omega⟩
  rw [octet, octet₁]
  refine head_eq [] rest length fits (by simp) ?_
  change first.toNat % 32 * 64 + b.toNat % 64 = n
  omega

theorem head_three (rest : List UInt8) (least : 0x7FF < n) (last : n ≤ 0xFFFF) (valid : n < 0xD800 ∨ 0xDFFF < n) :
    head (UInt8.ofNat (n / 4096 % 16 + 224))
      (UInt8.ofNat (n / 64 % 64 + 128) :: UInt8.ofNat (n % 64 + 128) :: rest) = .char (Char.ofNat n) 3 := by
  obtain ⟨first, octet, value⟩ := exists_octet (n := n / 4096 % 16 + 224) (by omega)
  obtain ⟨b, octet₁, value₁, continues₁⟩ := exists_continuation (n / 64)
  obtain ⟨b', octet₂, value₂, continues₂⟩ := exists_continuation n
  have length : lengthOf first = 3 := by
    rw [lengthOf_eq]
    split_ifs <;> omega
  have fits : Fits first b := ⟨continues₁, by omega, by omega, by omega, by omega⟩
  rw [octet, octet₁, octet₂]
  refine head_eq [b'] rest length fits (by simpa using continues₂) ?_
  change (first.toNat % 16 * 64 + b.toNat % 64) * 64 + b'.toNat % 64 = n
  omega

theorem head_four (rest : List UInt8) (least : 0xFFFF < n) (valid : n < 0x110000) :
    head (UInt8.ofNat (n / 262144 % 8 + 240))
      (UInt8.ofNat (n / 4096 % 64 + 128) :: UInt8.ofNat (n / 64 % 64 + 128) :: UInt8.ofNat (n % 64 + 128) :: rest) =
      .char (Char.ofNat n) 4 := by
  obtain ⟨first, octet, value⟩ := exists_octet (n := n / 262144 % 8 + 240) (by omega)
  obtain ⟨b, octet₁, value₁, continues₁⟩ := exists_continuation (n / 4096)
  obtain ⟨b', octet₂, value₂, continues₂⟩ := exists_continuation (n / 64)
  obtain ⟨b'', octet₃, value₃, continues₃⟩ := exists_continuation n
  have length : lengthOf first = 4 := by
    rw [lengthOf_eq]
    split_ifs <;> omega
  have fits : Fits first b := ⟨continues₁, by omega, by omega, by omega, by omega⟩
  rw [octet, octet₁, octet₂, octet₃]
  refine head_eq [b', b''] rest length fits (by simpa using ⟨continues₂, continues₃⟩) ?_
  change ((first.toNat % 8 * 64 + b.toNat % 64) * 64 + b'.toNat % 64) * 64 + b''.toNat % 64 = n
  omega

/-- The octets of a character begin with the character, whatever is behind them. -/
theorem head_encodeChar (c : Char) : ∃ first more, String.utf8EncodeChar c = first :: more ∧
    ∀ rest, head first (more ++ rest) = .char c (more.length + 1) := by
  have encoded := String.utf8EncodeChar.eq_1 c
  have same : Char.ofNat c.val.toNat = c := Char.ofNat_toNat c
  have valid : c.val.toNat < 0xD800 ∨ 0xDFFF < c.val.toNat ∧ c.val.toNat < 0x110000 := c.valid
  generalize c.val.toNat = n at encoded same valid
  -- One case for each number of octets.
  split_ifs at encoded with one two three
  · obtain ⟨first, octet, value⟩ := exists_octet (n := n) (by omega)
    have begins rest : head first rest = .char (Char.ofNat first.toNat) 1 := head_single rest (by omega)
    rw [octet] at encoded
    rw [value, same] at begins
    exact ⟨first, [], encoded, begins⟩
  · have begins rest := head_two rest (by omega) two
    rw [same] at begins
    exact ⟨_, _, encoded, begins⟩
  · have begins rest := head_three rest (by omega) three (by omega)
    rw [same] at begins
    exact ⟨_, _, encoded, begins⟩
  · have begins rest := head_four rest (n := n) (by omega) (by omega)
    rw [same] at begins
    exact ⟨_, _, encoded, begins⟩

/-! ## Texts -/

theorem decodeFrom_encode (position : Nat) {fuel : Nat} {cs : List Char}
    (enough : (cs.flatMap String.utf8EncodeChar).length ≤ fuel) :
    decodeFrom position fuel (cs.flatMap String.utf8EncodeChar) = .ok cs := by
  induction cs generalizing position fuel with
  | nil => cases fuel <;> rfl
  | cons c cs ih =>
      obtain ⟨first, more, octets, begins⟩ := head_encodeChar c
      rw [List.flatMap_cons, octets, List.cons_append] at enough ⊢
      rw [List.length_cons, List.length_append] at enough
      obtain ⟨fuel, rfl⟩ := Nat.exists_eq_add_one.2 (Nat.lt_of_lt_of_le (Nat.succ_pos _) enough)
      rw [decodeFrom, begins]
      dsimp only
      rw [Nat.add_sub_cancel, List.drop_left, ih _ (by omega)]
      rfl

/-- Octets are listed from a place on, behind those that have been listed. -/
theorem toList_loop (bs : ByteArray) (place : Nat) (before : List UInt8) :
    ByteArray.toList.loop bs place before = before.reverse ++ bs.data.toList.drop place := by
  induction place, before using ByteArray.toList.loop.induct bs with
  | case1 place before within ih =>
      rw [ByteArray.toList.loop.eq_def, if_pos within, ih, List.drop_eq_getElem_cons within]
      have octet : bs.get! place = bs.data.toList[place] := getElem!_pos bs.data place within
      rw [octet, List.reverse_cons, List.append_assoc, List.singleton_append]
  | case2 place before beyond =>
      rw [ByteArray.toList.loop.eq_def, if_neg beyond, List.drop_eq_nil_of_le (Nat.le_of_not_lt beyond),
        List.append_nil]

theorem encode_eq (s : String) : encode s = s.toList.flatMap String.utf8EncodeChar := by
  have octets : s.toUTF8 = (s.toList.flatMap String.utf8EncodeChar).toByteArray := by
    conv_lhs => rw [← String.ofList_toList (s := s)]
    rfl
  rw [encode, octets, ByteArray.toList, toList_loop]
  simp

theorem decode_encode (s : String) : decode (encode s) = .ok s := by
  rw [decode, encode_eq, decodeFrom_encode 0 (Nat.le_refl _)]
  exact congrArg Except.ok String.ofList_toList

/-! ## Pieces -/

section Pieces

variable {wanted k length : Nat} {rest piece : List UInt8} {c : Char} {cs : List Char}

theorem fitting_cons : fitting first (wanted + 1) (second :: rest) =
    if (secondRange first).1 ≤ second ∧ second ≤ (secondRange first).2 then
      1 + ((rest.take wanted).takeWhile isContinuation).length else 0 := by
  simp [fitting]

/-- If all octets fit that are wanted, those fit that are left of them. -/
theorem fitting_take (whole : fitting first wanted rest = wanted) (less : k ≤ wanted) :
    fitting first wanted (rest.take k) = k ∧ (rest.take k).length = k := by
  cases k with
  | zero => exact ⟨by cases wanted <;> rfl, rfl⟩
  | succ k =>
      obtain ⟨wanted, rfl⟩ := Nat.exists_eq_add_one.2 (Nat.lt_of_lt_of_le k.succ_pos less)
      cases rest with
      | nil => cases whole
      | cons second more =>
          rw [fitting_cons] at whole
          split at whole
          · rename_i within
            have fit : (more.take wanted).takeWhile isContinuation = more.take wanted := by
              have most := List.length_take_le wanted more
              exact (List.takeWhile_prefix _).eq_of_length_le (by omega)
            have enough : wanted ≤ more.length := by
              rw [fit, List.length_take] at whole
              omega
            have size : (more.take k).length = k := List.length_take_of_le (by omega)
            have part : ((more.take k).take wanted).takeWhile isContinuation = more.take k := by
              rw [List.take_take, Nat.min_eq_right (by omega), List.takeWhile_eq_self_iff]
              intro b member
              exact List.takeWhile_eq_self_iff.1 fit b ((List.take_prefix_take_left (by omega)).subset member)
            rw [List.take_succ_cons, fitting_cons, if_pos within, part, List.length_cons, size, Nat.add_comm]
            exact ⟨rfl, rfl⟩
          · cases whole

/-- A character that is cut off is told from a broken one. -/
theorem head_take (whole : head first rest = .char c length) (less : k + 1 < length) :
    head first (rest.take k) = .broken .truncated (k + 1) := by
  rw [head] at whole
  dsimp only at whole
  split at whole
  · cases whole
  · rename_i some
    split at whole
    · rename_i full
      cases whole
      obtain ⟨part, size⟩ := fitting_take full (k := k) (by omega)
      simp only [head, if_neg some, part, size, if_true]
      rw [if_neg (by omega)]
    · split at whole <;> cases whole

/-- The octets of a text that are cut off anywhere are those of a first part of it, and what waits for the next
piece. -/
theorem decodeOpen_of_prefix (position : Nat) {fuel : Nat} (cut : piece <+: cs.flatMap String.utf8EncodeChar)
    (enough : piece.length ≤ fuel) : ∃ ds es left, cs = ds ++ es ∧
      piece = ds.flatMap String.utf8EncodeChar ++ left ∧ decodeOpen position fuel piece = .ok (ds, left) := by
  induction cs generalizing position fuel piece with
  | nil =>
      obtain rfl := List.prefix_nil.1 cut
      exact ⟨[], [], [], rfl, rfl, by cases fuel <;> rfl⟩
  | cons c cs ih =>
      cases piece with
      | nil => exact ⟨[], c :: cs, [], rfl, rfl, by cases fuel <;> rfl⟩
      | cons first rest =>
          obtain ⟨fuel, rfl⟩ := Nat.exists_eq_add_one.2 (Nat.lt_of_lt_of_le (Nat.succ_pos _) enough)
          obtain ⟨other, more, octets, begins⟩ := head_encodeChar c
          rw [List.flatMap_cons, octets, List.cons_append, List.cons_prefix_cons] at cut
          obtain ⟨rfl, cut⟩ := cut
          rcases Nat.lt_or_ge rest.length more.length with short | long
          -- The piece ends within the first character.
          · have within := List.prefix_of_prefix_length_le cut (List.prefix_append _ _) short.le
            have taken := List.prefix_iff_eq_take.1 within
            have waits := head_take (begins []) (k := rest.length) (by omega)
            rw [List.append_nil, ← taken] at waits
            refine ⟨[], c :: cs, first :: rest, rfl, rfl, ?_⟩
            rw [decodeOpen, waits]
          · obtain ⟨later, rfl⟩ := List.prefix_of_prefix_length_le (List.prefix_append _ _) cut long
            rw [List.length_cons, List.length_append] at enough
            obtain ⟨ds, es, left, rfl, rfl, read⟩ := ih (position + (more.length + 1))
              ((List.prefix_append_right_inj _).1 cut) (by omega : _ ≤ fuel)
            refine ⟨c :: ds, es, left, rfl, by rw [List.flatMap_cons, octets]; simp, ?_⟩
            rw [decodeOpen, begins]
            dsimp only
            rw [Nat.add_sub_cancel, List.drop_left, read]
            rfl

theorem decodePiecesFrom_encode (size : Nat) {fuel : Nat} {waiting bytes : List UInt8}
    (whole : waiting ++ bytes = cs.flatMap String.utf8EncodeChar) :
    decodePiecesFrom size fuel waiting bytes = .ok cs := by
  induction fuel generalizing waiting bytes cs with
  | zero => rw [decodePiecesFrom, whole, decodeFrom_encode 0 (Nat.le_refl _)]
  | succ fuel ih =>
      cases bytes with
      | nil =>
          rw [List.append_nil] at whole
          rw [decodePiecesFrom, whole, decodeFrom_encode 0 (Nat.le_refl _)]
          nofun
      | cons byte rest =>
          have cut : waiting ++ (byte :: rest).take size <+: cs.flatMap String.utf8EncodeChar := by
            rw [← whole]
            exact (List.prefix_append_right_inj _).2 (List.take_prefix _ _)
          obtain ⟨ds, es, left, rfl, split, read⟩ := decodeOpen_of_prefix 0 cut (Nat.le_refl _)
          -- What waits and what has not come yet are the octets of the other part of the text.
          have later : left ++ (byte :: rest).drop size = es.flatMap String.utf8EncodeChar := by
            rw [← List.take_append_drop size (byte :: rest), ← List.append_assoc, split, List.flatMap_append,
              List.append_assoc] at whole
            exact List.append_cancel_left whole
          rw [decodePiecesFrom]
          · simp only [read, bind, Except.bind, ih later, pure, Except.pure]
          · nofun

/-- A stored text is read in pieces of any size. -/
theorem decodePieces_encode (size : Nat) (s : String) : decodePieces size (encode s) = .ok s := by
  rw [decodePieces, decodePiecesFrom_encode size (by rw [List.nil_append, encode_eq])]
  exact congrArg Except.ok String.ofList_toList

end Pieces

end Utf8

/-- A text without carriage returns is stored and read as it is. -/
theorem ofStored_encode {s : String} (plain : '\r' ∉ s.toList) : ofStored (Utf8.encode s) = .ok s := by
  rw [ofStored, Utf8.decode_encode]
  change Except.ok (String.ofList (unifyBreaks s.toList)) = _
  rw [unifyBreaks_eq_self plain, String.ofList_toList]

end Triage.Text
