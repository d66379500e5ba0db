import Triage.Proofs.Decimal.Shortest
import Triage.Proofs.Text.Blank

/-!
# Decimals in characters

The written form of a number is a decimal with a point: digits, a point, digits, and perhaps an exponent.
Its value is that of the shortest decimal, and reading it takes the number nearest to the value.
-/

namespace Triage.Decimal

/-! ## Digits -/

section

variable {c : Char} {cs ds ws : List Char} {n : ℕ}

/-- The characters of numbers. -/
def numberChars : List Char := "0123456789.e+-".toList

theorem mem_numberChars_of_isDigit (digit : c.isDigit = true) : c ∈ numberChars.take 10 := by
  simp only [Char.isDigit, Bool.and_eq_true, decide_eq_true_eq, ge_iff_le, UInt32.le_iff_toNat_le] at digit
  obtain ⟨low, high⟩ := digit
  change 48 ≤ c.toNat at low
  change c.toNat ≤ 57 at high
  rw [← Char.ofNat_toNat c]
  generalize c.toNat = k at low high
  interval_cases k <;> decide

theorem mem_numberChars (digit : c.isDigit = true) : c ∈ numberChars :=
  List.mem_of_mem_take (mem_numberChars_of_isDigit digit)

theorem naturalOf_eq (ds : List Char) : naturalOf ds = Nat.ofDigitChars 10 ds 0 := by
  simp [naturalOf, Nat.ofDigitChars, Nat.mul_comm]

theorem naturalOf_append (ws ds : List Char) :
    naturalOf (ws ++ ds) = naturalOf ws * 10 ^ ds.length + naturalOf ds := by
  rw [naturalOf_eq, naturalOf_eq, naturalOf_eq, Nat.ofDigitChars_append, Nat.ofDigitChars_eq_ofDigitChars_zero,
    Nat.mul_comm]

theorem naturalOf_replicate (k : ℕ) : naturalOf (List.replicate k '0') = 0 := by
  rw [naturalOf_eq, Nat.ofDigitChars_replicate_zero, Nat.mul_zero]

theorem digits_eq (n : ℕ) : digits n = Nat.toDigits 10 n := Nat.toList_repr

theorem naturalOf_digits (n : ℕ) : naturalOf (digits n) = n := by
  rw [naturalOf_eq, digits_eq, Nat.ofDigitChars_ten_toDigits]

theorem isDigit_of_mem_digits (member : c ∈ digits n) : c.isDigit = true := by
  rw [digits_eq] at member
  exact Nat.isDigit_of_mem_toDigits (by decide) (by decide) member

theorem digits_ne_nil (n : ℕ) : digits n ≠ [] := by
  rw [digits_eq]
  exact Nat.toDigits_ne_nil

/-- A positive number does not start with a zero. -/
theorem head?_digits (positive : 0 < n) : (digits n).head? ≠ some '0' := by
  rw [digits_eq]
  induction n using Nat.strong_induction_on with
  | _ n ih =>
      rw [Nat.toDigits_eq_if (by decide)]
      split
      · simpa using positive.ne'
      · rw [List.head?_append_of_ne_nil _ Nat.toDigits_ne_nil]
        exact ih (n / 10) (by omega) (by omega)

theorem padded_eq (width n : ℕ) : padded width n = List.replicate (width - (digits n).length) '0' ++ digits n := rfl

theorem naturalOf_padded (width n : ℕ) : naturalOf (padded width n) = n := by
  rw [padded_eq, naturalOf_append, naturalOf_replicate, naturalOf_digits, Nat.zero_mul, Nat.zero_add]

theorem isDigit_of_mem_padded {width : ℕ} (member : c ∈ padded width n) : c.isDigit = true := by
  rw [padded_eq, List.mem_append] at member
  obtain zeros | member := member
  · obtain rfl := List.eq_of_mem_replicate zeros
    rfl
  · exact isDigit_of_mem_digits member

theorem padded_ne_nil (width n : ℕ) : padded width n ≠ [] := by
  rw [padded_eq]
  exact List.append_ne_nil_of_right_ne_nil _ (digits_ne_nil n)

/-- The digits without the zeros at the end, and how many there were. -/
theorem exists_dropTrailingZeros (ds : List Char) :
    ∃ k, ds = dropTrailingZeros ds ++ List.replicate k '0' := by
  refine ⟨(ds.reverse.takeWhile (· == '0')).length, ?_⟩
  have zeros : ds.reverse.takeWhile (· == '0') = List.replicate (ds.reverse.takeWhile (· == '0')).length '0' := by
    refine List.eq_replicate_of_mem fun c member => ?_
    simpa using List.mem_takeWhile_imp member
  rw [dropTrailingZeros, ← List.reverse_replicate, ← zeros, ← List.reverse_append, List.takeWhile_append_dropWhile,
    List.reverse_reverse]

theorem dropTrailingZeros_digits (positive : 0 < n) : ∃ k,
    (digits n).length = (dropTrailingZeros (digits n)).length + k ∧
      n = naturalOf (dropTrailingZeros (digits n)) * 10 ^ k ∧ dropTrailingZeros (digits n) ≠ [] ∧
      ∀ c ∈ dropTrailingZeros (digits n), c.isDigit = true := by
  obtain ⟨k, whole⟩ := exists_dropTrailingZeros (digits n)
  have length := congrArg List.length whole
  have natural := congrArg naturalOf whole
  rw [List.length_append, List.length_replicate] at length
  rw [naturalOf_digits, naturalOf_append, naturalOf_replicate, List.length_replicate, Nat.add_zero] at natural
  refine ⟨k, length, natural, fun none => ?_, fun c member => isDigit_of_mem_digits (n := n) ?_⟩
  · rw [none] at natural
    exact absurd positive (by rw [natural]; simp [naturalOf])
  · rw [whole]
    exact List.mem_append_left _ member

end

/-! ## Decimals with a point -/

/-- An exponent with its mark, or nothing. -/
inductive Scale : List Char → ℤ → Prop where
  | none : Scale [] 0
  | marked (e : ℤ) : Scale (exponentMark e) e

/-- The characters of a decimal, with its mantissa and its exponent. -/
inductive Spelled : List Char → ℕ → ℤ → Prop where
  | parts {whole places mark : List Char} {e : ℤ} (first : whole ≠ []) (last : places ≠ [])
      (digits : ∀ c ∈ whole ++ places, c.isDigit = true) (scale : Scale mark e) :
      Spelled (whole ++ '.' :: (places ++ mark)) (naturalOf (whole ++ places)) (e - places.length)

section

variable {mark whole places ds cs : List Char} {c : Char} {m : ℕ} {e point : ℤ}

theorem exponentMark_eq (e : ℤ) :
    exponentMark e = 'e' :: (if e < 0 then '-' else '+') :: padded 2 e.natAbs := rfl

namespace Scale

theorem mem_numberChars (scale : Scale mark e) : ∀ c ∈ mark, c ∈ numberChars := by
  cases scale with
  | none => simp
  | marked =>
      intro c member
      rw [exponentMark_eq] at member
      obtain rfl | member := List.mem_cons.1 member
      · decide
      obtain rfl | member := List.mem_cons.1 member
      · split <;> decide
      · exact Decimal.mem_numberChars (isDigit_of_mem_padded member)

/-- Nothing of an exponent belongs to the digits before it. -/
theorem takeWhile_append (scale : Scale mark e) (digits : ∀ c ∈ places, c.isDigit = true) :
    (places ++ mark).takeWhile Char.isDigit = places ∧ (places ++ mark).dropWhile Char.isDigit = mark := by
  have stop : Char.isDigit 'e' = false := rfl
  rw [List.takeWhile_append_of_pos digits, List.dropWhile_append_of_pos digits]
  cases scale with
  | none => simp
  | marked e => simp [exponentMark_eq, stop]

theorem exponentPart? (scale : Scale mark e) : exponentPart? mark = some e := by
  cases scale with
  | none => rfl
  | marked =>
      have digits : (padded 2 e.natAbs).all Char.isDigit = true :=
        List.all_eq_true.2 fun c member => isDigit_of_mem_padded member
      have filled : (padded 2 e.natAbs).isEmpty = false := by
        rw [List.isEmpty_eq_false_iff]
        exact padded_ne_nil 2 e.natAbs
      rw [exponentMark_eq]
      by_cases down : e < 0
      · rw [if_pos down]
        simp [Decimal.exponentPart?, splitSign, filled, digits, naturalOf_padded, abs_of_neg down]
      · rw [if_neg down]
        simp [Decimal.exponentPart?, splitSign, filled, digits, naturalOf_padded, abs_of_nonneg (not_lt.1 down)]

end Scale

namespace Spelled

theorem mem_numberChars (spelled : Spelled cs m e) : ∀ c ∈ cs, c ∈ numberChars := by
  cases spelled with
  | parts first last digits scale =>
      intro c member
      obtain front | rfl | back | behind : c ∈ _ ∨ c = '.' ∨ c ∈ _ ∨ c ∈ _ := by simpa using member
      · exact Decimal.mem_numberChars (digits c (List.mem_append_left _ front))
      · decide
      · exact Decimal.mem_numberChars (digits c (List.mem_append_right _ back))
      · exact scale.mem_numberChars c behind

theorem head (spelled : Spelled cs m e) : ∃ c rest, cs = c :: rest ∧ c.isDigit = true := by
  cases spelled with
  | @parts whole places mark e first last digits scale =>
      cases whole with
      | nil => exact absurd rfl first
      | cons c whole => exact ⟨c, _, rfl, digits c (by simp)⟩

theorem dot_mem (spelled : Spelled cs m e) : '.' ∈ cs := by
  cases spelled with
  | parts first last digits scale => simp

theorem magnitude? (spelled : Spelled cs m e) : magnitude? cs = some (nearest m e) := by
  cases spelled with
  | @parts whole places mark e first last digits scale =>
      have stop : Char.isDigit '.' = false := rfl
      have front : ∀ c ∈ whole, c.isDigit = true := fun c member => digits c (List.mem_append_left _ member)
      obtain ⟨taken, left⟩ := scale.takeWhile_append fun c member => digits c (List.mem_append_right _ member)
      have wholeTaken : (whole ++ '.' :: (places ++ mark)).takeWhile Char.isDigit = whole := by
        rw [List.takeWhile_append_of_pos front, List.takeWhile_cons_of_neg (by simp [stop]), List.append_nil]
      have wholeLeft : (whole ++ '.' :: (places ++ mark)).dropWhile Char.isDigit = '.' :: (places ++ mark) := by
        rw [List.dropWhile_append_of_pos front, List.dropWhile_cons_of_neg (by simp [stop])]
      have filled : whole.isEmpty = false := List.isEmpty_eq_false_iff.2 first
      rw [Decimal.magnitude?]
      simp only [wholeTaken, wholeLeft, taken, left, filled, Bool.false_and, Bool.false_eq_true, if_false,
        scale.exponentPart?, Option.map_some]

end Spelled

/-! ## Reading -/

theorem trimBy_eq_self {drop : Char → Bool} (kept : ∀ c ∈ cs, drop c = false) : Text.trimBy drop cs = cs :=
  Text.trimBy_eq_self_iff.2
    ⟨fun c first => kept c (List.mem_of_mem_head? first), fun c last => kept c (List.mem_of_getLast? last)⟩

theorem joinDigits?_eq_some {previous : Char} (before : previous ≠ '_') (plain : ∀ c ∈ cs, c ≠ '_') :
    joinDigits? previous cs = some cs := by
  induction cs generalizing previous with
  | nil => simp [joinDigits?, before]
  | cons c cs ih =>
      obtain ⟨here, later⟩ := List.forall_mem_cons.1 plain
      simp [joinDigits?, here, before, ih here later]

theorem numeralText_ofList (numeric : ∀ c ∈ cs, c ∈ numberChars) : numeralText (String.ofList cs) = cs := by
  have ascii : ∀ c ∈ numberChars, (decide (c.toNat < 128) && !isAsciiBlank c) = true := List.all_eq_true.1 (by decide)
  simp only [Bool.and_eq_true, Bool.not_eq_true'] at ascii
  have same : cs.map numeral = cs := by
    refine (List.map_congr_left fun c member => ?_).trans (List.map_id' cs)
    exact numeral_eq_self (of_decide_eq_true (ascii c (numeric c member)).1)
  rw [numeralText, String.toList_ofList, same]
  exact trimBy_eq_self fun c member => (ascii c (numeric c member)).2

theorem splitSign_of_isDigit (digit : c.isDigit = true) : splitSign (c :: cs) = (false, c :: cs) := by
  rw [splitSign]
  · rintro _ ⟨⟩
    cases digit
  · rintro _ ⟨⟩
    cases digit

/-- A decimal is read as the number nearest to its value. -/
theorem Spelled.float? (spelled : Spelled cs m e) : float? (String.ofList cs) = some (nearest m e) := by
  have plain : ∀ c ∈ numberChars, (c != '_') = true := List.all_eq_true.1 (by decide)
  have letters : ∀ c ∈ numberChars.take 10, (c.toLower != 'i' && c.toLower != 'n') = true :=
    List.all_eq_true.1 (by decide)
  simp only [Bool.and_eq_true, bne_iff_ne] at plain letters
  obtain ⟨c, rest, rfl, digit⟩ := spelled.head
  obtain ⟨noI, noN⟩ := letters c (mem_numberChars_of_isDigit digit)
  have named : ∀ d ds, c.toLower ≠ d → String.ofList ((c :: rest).map Char.toLower) ≠ String.ofList (d :: ds) := by
    intro d ds other same
    rw [String.ofList_inj, List.map_cons] at same
    exact other (List.cons.inj same).1
  have noInf : String.ofList ((c :: rest).map Char.toLower) ≠ "inf" := named 'i' ['n', 'f'] noI
  have noInfinity : String.ofList ((c :: rest).map Char.toLower) ≠ "infinity" :=
    named 'i' ['n', 'f', 'i', 'n', 'i', 't', 'y'] noI
  have noNan : String.ofList ((c :: rest).map Char.toLower) ≠ "nan" := named 'n' ['a', 'n'] noN
  rw [Decimal.float?, numeralText_ofList spelled.mem_numberChars,
    joinDigits?_eq_some (by decide) fun c member => plain c (spelled.mem_numberChars c member)]
  simp only [Option.bind_eq_bind, Option.bind_some, splitSign_of_isDigit digit, beq_eq_false_iff_ne.2 noInf,
    beq_eq_false_iff_ne.2 noInfinity, beq_eq_false_iff_ne.2 noNan, Bool.or_false, Bool.false_eq_true, if_false,
    spelled.magnitude?, Option.pure_def]

/-! ## Writing -/

/-- The characters of a decimal of a given value. -/
def Spells (cs : List Char) (v : ℚ) : Prop := ∃ m e, Spelled cs m e ∧ (m : ℚ) * 10 ^ e = v

theorem Scale.spells {v : ℚ} (scale : Scale mark e) (first : whole ≠ []) (last : places ≠ [])
    (front : ∀ c ∈ whole, c.isDigit = true) (back : ∀ c ∈ places, c.isDigit = true)
    (value : (naturalOf (whole ++ places) : ℚ) * 10 ^ (e - places.length) = v) :
    Spells (whole ++ '.' :: (places ++ mark)) v :=
  ⟨_, _, .parts first last (List.forall_mem_append.2 ⟨front, back⟩) scale, value⟩

theorem isDigit_replicate (k : ℕ) : ∀ c ∈ List.replicate k '0', c.isDigit = true := by
  intro c member
  obtain rfl := List.eq_of_mem_replicate member
  rfl

theorem isDigit_zero : ∀ c ∈ ['0'], c.isDigit = true := isDigit_replicate 1

/-- Zeros stand between the point and the digits behind it. -/
theorem spells_behind (filled : ds ≠ []) (digits : ∀ c ∈ ds, c.isDigit = true) (before : point ≤ 0) :
    Spells ('0' :: '.' :: (List.replicate (-point).toNat '0' ++ ds)) (naturalOf ds * 10 ^ (point - ds.length)) := by
  have value : naturalOf (['0'] ++ (List.replicate (-point).toNat '0' ++ ds)) = naturalOf ds := by
    rw [naturalOf_append, naturalOf_append, naturalOf_replicate]
    simp [naturalOf]
  rw [← List.append_nil (List.replicate (-point).toNat '0' ++ ds)]
  change Spells (['0'] ++ '.' :: (List.replicate (-point).toNat '0' ++ ds ++ [])) _
  refine Scale.none.spells (List.cons_ne_nil _ _) (List.append_ne_nil_of_right_ne_nil _ filled) isDigit_zero
    (List.forall_mem_append.2 ⟨isDigit_replicate _, digits⟩) ?_
  rw [value, List.length_append, List.length_replicate]
  congr 2
  push_cast
  omega

/-- The point stands between two digits. -/
theorem spells_among {k : ℕ} (some : 0 < k) (few : k < ds.length) (digits : ∀ c ∈ ds, c.isDigit = true) :
    Spells (ds.take k ++ '.' :: ds.drop k) (naturalOf ds * 10 ^ ((k : ℤ) - ds.length)) := by
  have first : ds.take k ≠ [] := by
    rw [Ne, List.take_eq_nil_iff, not_or, ← List.length_eq_zero_iff]
    omega
  have last : ds.drop k ≠ [] := by
    rw [Ne, List.drop_eq_nil_iff]
    omega
  rw [← List.append_nil (ds.drop k)]
  refine Scale.none.spells first last (fun c member => digits c (List.mem_of_mem_take member))
    (fun c member => digits c (List.mem_of_mem_drop member)) ?_
  rw [List.take_append_drop k ds, List.length_drop]
  congr 2
  omega

/-- Zeros stand between the digits and the point behind them. -/
theorem spells_before {k : ℕ} (filled : ds ≠ []) (many : ds.length ≤ k) (digits : ∀ c ∈ ds, c.isDigit = true) :
    Spells (ds ++ List.replicate (k - ds.length) '0' ++ '.' :: ['0']) (naturalOf ds * 10 ^ ((k : ℤ) - ds.length)) := by
  rw [← List.append_nil ['0']]
  refine Scale.none.spells (List.append_ne_nil_of_left_ne_nil filled _) (List.cons_ne_nil _ _)
    (List.forall_mem_append.2 ⟨digits, isDigit_replicate _⟩) isDigit_zero ?_
  rw [naturalOf_append, naturalOf_append, naturalOf_replicate, List.length_replicate]
  have zeros : (10 : ℚ) ^ ((k : ℤ) - ds.length) = 10 ^ (k - ds.length) := by
    rw [← zpow_natCast]
    congr 1
    omega
  rw [zeros]
  simp [naturalOf]

/-- Digits with a point among them, or behind or in front of them where zeros fill the gap. -/
theorem spells_positional (filled : ds ≠ []) (digits : ∀ c ∈ ds, c.isDigit = true) (point : ℤ) :
    Spells (positional ds point) (naturalOf ds * 10 ^ (point - ds.length)) := by
  by_cases before : point ≤ 0
  · rw [positional, if_pos before]
    exact spells_behind filled digits before
  · obtain ⟨k, rfl⟩ : ∃ k : ℕ, point = k := ⟨point.toNat, by omega⟩
    rw [positional, if_neg before, Int.toNat_natCast]
    simp only
    obtain few | many := Nat.lt_or_ge k ds.length
    · have none : k - ds.length = 0 := by omega
      have some : ds.drop k ≠ [] := by
        rw [Ne, List.drop_eq_nil_iff]
        omega
      rw [none, List.replicate_zero, List.append_nil, List.isEmpty_eq_false_iff.2 some, if_neg Bool.false_ne_true]
      exact spells_among (by omega) few digits
    · rw [List.take_of_length_le many, List.drop_of_length_le many, List.isEmpty_nil, if_pos rfl]
      exact spells_before filled many digits

/-- More than one digit with an exponent, the point behind the first. -/
theorem spells_withExponent {d : Char} (filled : ds ≠ []) (digits : ∀ c ∈ d :: ds, c.isDigit = true) (point : ℤ) :
    Spells (withExponent (d :: ds) point) (naturalOf (d :: ds) * 10 ^ (point - (d :: ds).length)) := by
  obtain ⟨c, cs, rfl⟩ := List.exists_cons_of_ne_nil filled
  have shape : withExponent (d :: c :: cs) point = [d] ++ '.' :: (c :: cs ++ exponentMark (point - 1)) := rfl
  rw [shape]
  refine (Scale.marked (point - 1)).spells (List.cons_ne_nil _ _) filled
    (fun x member => digits x (by simp [List.mem_singleton.1 member]))
    (fun x member => digits x (List.mem_cons_of_mem _ member)) ?_
  rw [List.singleton_append]
  congr 2
  simp only [List.length_cons]
  push_cast
  ring

/-- One digit with an exponent, once there is a point behind it. -/
theorem spells_single {d : Char} (digit : d.isDigit = true) (point : ℤ) :
    Spells ([d] ++ '.' :: (['0'] ++ exponentMark (point - 1))) (naturalOf [d] * 10 ^ (point - 1)) := by
  refine (Scale.marked (point - 1)).spells (List.cons_ne_nil _ _) (List.cons_ne_nil _ _) (by simpa using digit)
    (isDigit_replicate 1) ?_
  rw [naturalOf_append, zpow_sub₀ (by norm_num)]
  simp [naturalOf]
  ring

/-- The written form of a number spells its shortest decimal, if one digit with an exponent gets a point. -/
theorem writeFinite_cases {x : Binary} (some : 0 < x.m → 0 < x.shortest.digits) :
    ∃ body, writeFinite x = (if x.negative then '-' :: body else body) ∧
      (Spells body x.shortest.toRat ∨ ∃ d e, d.isDigit = true ∧ body = d :: exponentMark e ∧
        Spells ([d] ++ '.' :: (['0'] ++ exponentMark e)) x.shortest.toRat) := by
  refine ⟨_, rfl, ?_⟩
  obtain none | positive := Nat.eq_zero_or_pos x.m
  · have zero : x.shortest.toRat = naturalOf ['0'] * 10 ^ ((1 : ℤ) - (['0'] : List Char).length) := by
      rw [Binary.shortest, if_pos none]
      rfl
    simp only [none, if_true]
    rw [zero]
    exact .inl (spells_positional (List.cons_ne_nil _ _) (isDigit_replicate 1) 1)
  · obtain ⟨k, length, natural, filled, digit⟩ := dropTrailingZeros_digits (some positive)
    simp only [positive.ne', if_false, length]
    generalize dropTrailingZeros (digits x.shortest.digits) = ds at *
    have value : x.shortest.toRat =
        naturalOf ds * 10 ^ (x.shortest.exponent + ((ds.length + k : ℕ) : ℤ) - ds.length) := by
      have place : x.shortest.exponent + ((ds.length + k : ℕ) : ℤ) - ds.length = k + x.shortest.exponent := by
        push_cast
        ring
      rw [Scientific.toRat, natural, place, zpow_add₀ (by norm_num), zpow_natCast]
      push_cast
      ring
    rw [value]
    split
    · exact .inl (spells_positional filled digit _)
    · obtain ⟨d, rest, rfl⟩ := List.exists_cons_of_ne_nil filled
      cases rest with
      | nil => exact .inr ⟨d, _, digit d (List.mem_singleton_self d), rfl,
        spells_single (digit d (List.mem_singleton_self d)) _⟩
      | cons c rest => exact .inl (spells_withExponent (List.cons_ne_nil c rest) digit _)

end

end Triage.Decimal
