import Triage.Proofs.Decimal.Spelled
import Triage.Yaml.Scalar
import Triage.Yaml.Writing

/-!
# Numbers as scalars

The written form of a number may stand plain, its form gives it the tag of its kind, and it is read as the
number: whole numbers that are not too long, and all binary64 numbers, the infinities and the value that is
no number too.
-/

namespace Triage.Yaml

open Decimal Float.Model

/-! ## Plain numbers -/

section

variable {c : Char} {cs ds : List Char} {n : ℕ} {m : ℕ} {e : ℤ}

/-- A number with a sign perhaps. -/
def withSign (negative : Bool) (cs : List Char) : List Char := if negative then '-' :: cs else cs

theorem withSign_mem_numberChars (negative : Bool) (numeric : ∀ c ∈ cs, c ∈ numberChars) :
    ∀ c ∈ withSign negative cs, c ∈ numberChars := by
  cases negative with
  | false => exact numeric
  | true => exact List.forall_mem_cons.2 ⟨by decide +kernel, numeric⟩

theorem hasPair_eq_false {p q : Char → Bool} (none : ∀ c ∈ cs, p c = false) : Style.hasPair p q cs = false := by
  rw [Style.hasPair, List.any_eq_false]
  rintro ⟨a, b⟩ member
  simp [none a (List.of_mem_zip member).1]

/-- A character that has no part in structure. -/
structure Neutral (c : Char) : Prop where
  inside : Style.isEdge c = false
  sameLine : Style.isLineBreak c = false
  printable : Style.isSpecial c = false
  closed : Style.isOpen c = false
  noIndicator : "#,[]\x7b\x7d&*!|>'\"%@\x60?:".toList.contains c = false
  noUnderscore : (c != '_') = true
  lower : Text.lowerChar c = c
  ascii : c.toNat < 128

theorem neutral_of_mem_numberChars (member : c ∈ numberChars) : Neutral c := by
  have all : ∀ c ∈ numberChars, (!Style.isEdge c && !Style.isLineBreak c && !Style.isSpecial c && !Style.isOpen c &&
      !"#,[]\x7b\x7d&*!|>'\"%@\x60?:".toList.contains c && c != '_' && Text.lowerChar c == c &&
      decide (c.toNat < 128)) = true := List.all_eq_true.1 (by decide)
  have here := all c member
  simp only [Bool.and_eq_true, Bool.not_eq_true', beq_iff_eq, decide_eq_true_eq] at here
  obtain ⟨⟨⟨⟨⟨⟨⟨inside, sameLine⟩, printable⟩, closed⟩, noIndicator⟩, noUnderscore⟩, lower⟩, ascii⟩ := here
  exact ⟨inside, sameLine, printable, closed, noIndicator, noUnderscore, lower, ascii⟩

theorem getLastD_mem (filled : cs ≠ []) (d : Char) : cs.getLastD d ∈ cs := by
  rw [List.getLastD_eq_getLast?, List.getLast?_eq_some_getLast filled, Option.getD_some]
  exact List.getLast_mem filled

/-- A number is not taken for structure. -/
theorem hasIndicator_number (negative : Bool) (digit : c.isDigit = true) (numeric : ∀ x ∈ c :: cs, x ∈ numberChars) :
    Style.hasIndicator (withSign negative (c :: cs)) = false := by
  have all := withSign_mem_numberChars negative numeric
  have apart {m : Char} (other : m.isDigit = false) : (m == c) = false := by
    rw [beq_eq_false_iff_ne]
    rintro rfl
    cases other.symm.trans digit
  have noDash : ('-' == c) = false := apart rfl
  obtain ⟨-, -, -, closed, outside, -, -, -⟩ := neutral_of_mem_numberChars (numeric c List.mem_cons_self)
  have noColon : Style.hasPair (· == ':') Style.isOpen (withSign negative (c :: cs) ++ [' ']) = false := by
    refine hasPair_eq_false (List.forall_mem_append.2 ⟨fun x member => ?_, by simp⟩)
    have outside := (neutral_of_mem_numberChars (all x member)).noIndicator
    rw [beq_eq_false_iff_ne]
    rintro rfl
    exact absurd outside (by decide)
  have noComment : Style.hasPair Style.isOpen (· == '#') (withSign negative (c :: cs)) = false :=
    hasPair_eq_false fun x member => (neutral_of_mem_numberChars (all x member)).closed
  rw [Style.hasIndicator, noColon, noComment]
  cases negative with
  | true =>
      simp [withSign, List.isPrefixOf, noDash, closed]
  | false =>
      -- the question mark and the colon are looked for apart from the other indicators
      have indicators : "#,[]\x7b\x7d&*!|>'\"%@\x60?:".toList = "#,[]\x7b\x7d&*!|>'\"%@\x60".toList ++ ['?', ':'] := rfl
      rw [indicators, List.contains_eq_any_beq, List.any_append, Bool.or_eq_false_iff,
        ← List.contains_eq_any_beq] at outside
      have noMark : (c == '?') = false := BEq.comm.trans (apart rfl)
      have dashes : "---".toList.isPrefixOf (c :: cs) = false := by
        change ('-' == c && _) = false
        rw [noDash, Bool.false_and]
      have dots : "...".toList.isPrefixOf (c :: cs) = false := by
        change ('.' == c && _) = false
        rw [apart rfl, Bool.false_and]
      simp only [withSign, Bool.false_eq_true, if_false, List.headD_cons, outside.1, noMark, BEq.comm.trans noDash,
        dashes, dots, Bool.or_self, Bool.false_and]

/-- A number may stand plain. -/
theorem allowsPlain_number (negative : Bool) (digit : c.isDigit = true) (numeric : ∀ x ∈ c :: cs, x ∈ numberChars) :
    Style.allowsPlain (withSign negative (c :: cs)) = true := by
  have all := withSign_mem_numberChars negative numeric
  have filled : withSign negative (c :: cs) ≠ [] := by cases negative <;> exact List.cons_ne_nil _ _
  have first : Style.isEdge ((withSign negative (c :: cs)).headD 'x') = false := by
    obtain ⟨d, ds, shape⟩ := List.exists_cons_of_ne_nil filled
    rw [shape]
    exact (neutral_of_mem_numberChars (all d (shape ▸ List.mem_cons_self))).inside
  have last : Style.isEdge ((withSign negative (c :: cs)).getLastD 'x') = false :=
    (neutral_of_mem_numberChars (all _ (getLastD_mem filled 'x'))).inside
  have oneLine : Style.isMultiline (withSign negative (c :: cs)) = false :=
    List.any_eq_false.2 fun x member => by simp [(neutral_of_mem_numberChars (all x member)).sameLine]
  have printable : (withSign negative (c :: cs)).any Style.isSpecial = false :=
    List.any_eq_false.2 fun x member => by simp [(neutral_of_mem_numberChars (all x member)).printable]
  rw [Style.allowsPlain, first, last, oneLine, printable, hasIndicator_number negative digit numeric]
  rfl

/-! ## Forms of numbers -/

theorem ofForm_of_number (filled : cs ≠ []) (numeric : ∀ c ∈ cs, c ∈ numberChars)
    (number : (Form.isFloat cs || Form.isInt cs) = true) :
    Tag.ofForm (String.ofList cs) = if Form.isFloat cs then .float else .int := by
  -- no word for a truth value is made of the characters of numbers alone
  have words : ∀ w ∈ Form.truths ++ Form.falsehoods, (!w.toList.all numberChars.contains) = true :=
    List.all_eq_true.1 (by decide)
  have noWord : (Form.truths.contains (String.ofList cs) || Form.falsehoods.contains (String.ofList cs)) = false := by
    rw [Bool.eq_false_iff]
    intro word
    have other := words (String.ofList cs) (by simpa using word)
    rw [String.toList_ofList, Bool.not_eq_true', List.all_eq_false] at other
    obtain ⟨c, member, strange⟩ := other
    exact strange (List.contains_iff_mem.2 (numeric c member))
  have some : (String.ofList cs == "") = false := by
    rw [beq_eq_false_iff_ne]
    intro none
    exact filled (by simpa using congrArg String.toList none)
  have noBreak : Form.withoutFinalBreak cs = cs := by
    rw [Form.withoutFinalBreak, if_neg]
    intro last
    have line := (neutral_of_mem_numberChars (numeric _ (List.mem_of_getLast? last))).sameLine
    exact absurd line (by decide)
  rw [Tag.ofForm, some, if_neg Bool.false_ne_true]
  simp only [String.toList_ofList, noBreak, noWord, Bool.false_eq_true, if_false]
  split
  · rfl
  · rename_i notFloat
    rw [Bool.eq_false_iff.2 notFloat, Bool.false_or] at number
    rw [if_pos number]

theorem dropSign_withSign (negative : Bool) (digit : c.isDigit = true) :
    Form.dropSign (withSign negative (c :: cs)) = c :: cs := by
  cases negative with
  | true => rfl
  | false =>
      change Form.dropSign (c :: cs) = c :: cs
      rw [Form.dropSign]
      · rintro _ ⟨⟩
        cases digit
      · rintro _ ⟨⟩
        cases digit

theorem dropWhile_isPart (digits : ∀ c ∈ ds, c.isDigit = true) (behind : List Char) :
    (ds ++ behind).dropWhile Form.isPart = behind.dropWhile Form.isPart :=
  List.dropWhile_append_of_pos fun c member => by rw [Form.isPart, digits c member, Bool.true_or]

theorem isExponent_scale {mark : List Char} (scale : Scale mark e) :
    Form.isExponent (mark.dropWhile Form.isPart) = true := by
  cases scale with
  | none => rfl
  | marked =>
      have digits : (padded 2 e.natAbs).all Char.isDigit = true :=
        List.all_eq_true.2 fun c member => isDigit_of_mem_padded member
      have filled : (padded 2 e.natAbs).isEmpty = false := List.isEmpty_eq_false_iff.2 (padded_ne_nil 2 e.natAbs)
      have stop : Form.isPart 'e' = false := rfl
      rw [exponentMark_eq, List.dropWhile_cons_of_neg (by simp [stop]), Form.isExponent, digits, filled]
      split <;> rfl

/-- A decimal with a point has the form of a binary64 number. -/
theorem isFloat_spelled (spelled : Spelled cs m e) (negative : Bool) :
    Form.isFloat (withSign negative cs) = true := by
  cases spelled with
  | @parts whole places mark e first last digits scale =>
      obtain ⟨c, whole, rfl⟩ := List.exists_cons_of_ne_nil first
      have digit : c.isDigit = true := digits c (by simp)
      have stop : Form.isPart '.' = false := rfl
      have behind : (whole ++ '.' :: (places ++ mark)).dropWhile Form.isPart = '.' :: (places ++ mark) := by
        rw [dropWhile_isPart fun x member => digits x (by simp [member]), List.dropWhile_cons_of_neg (by simp [stop])]
      have fraction : Form.isFraction (places ++ mark) = true := by
        rw [Form.isFraction, dropWhile_isPart fun x member => digits x (by simp [member])]
        exact isExponent_scale scale
      rw [Form.isFloat, List.cons_append, dropSign_withSign negative digit]
      split
      · rename_i dot
        cases dot
        cases digit
      · rename_i dot
        cases dot
        rw [digit, behind]
        exact fraction
      · rename_i none
        cases none

/-- The first digit of a number is a zero only if there is no other. -/
theorem digits_eq_cons (n : ℕ) :
    ∃ c ds, digits n = c :: ds ∧ (∀ x ∈ c :: ds, x.isDigit = true) ∧ (c = '0' → ds = []) := by
  obtain ⟨c, ds, shape⟩ := List.exists_cons_of_ne_nil (digits_ne_nil n)
  refine ⟨c, ds, shape, fun x member => isDigit_of_mem_digits (shape ▸ member), ?_⟩
  rintro rfl
  obtain rfl | positive := Nat.eq_zero_or_pos n
  · exact (List.cons.inj shape).2.symm
  · have head := head?_digits positive
    rw [shape] at head
    exact absurd rfl head

theorem dropWhile_isPart_digits (digits : ∀ c ∈ ds, c.isDigit = true) : ds.dropWhile Form.isPart = [] := by
  have behind := dropWhile_isPart digits []
  rwa [List.append_nil] at behind

theorem isFloat_digits (n : ℕ) (negative : Bool) : Form.isFloat (withSign negative (digits n)) = false := by
  obtain ⟨c, ds, shape, all, -⟩ := digits_eq_cons n
  obtain ⟨digit, later⟩ := List.forall_mem_cons.1 all
  rw [shape, Form.isFloat, dropSign_withSign negative digit]
  split
  · rename_i dot
    cases dot
    cases digit
  · rename_i same
    cases same
    rw [digit, dropWhile_isPart_digits later]
    rfl
  · rfl

/-- Digits alone have the form of a whole number. -/
theorem isInt_digits (n : ℕ) (negative : Bool) : Form.isInt (withSign negative (digits n)) = true := by
  obtain ⟨c, ds, shape, all, zero⟩ := digits_eq_cons n
  obtain ⟨digit, later⟩ := List.forall_mem_cons.1 all
  rw [shape, Form.isInt, dropSign_withSign negative digit]
  -- behind a zero there is nothing, so only the first case and the last but one are left
  split
  · rfl
  · rename_i same
    cases same
    cases zero rfl
  · rename_i same
    cases same
    cases zero rfl
  · rename_i other _ _ same
    cases same
    cases zero rfl
    exact absurd rfl other
  · rename_i same
    cases same
    rw [digit, dropWhile_isPart_digits later]
    rfl
  · rename_i same
    cases same

/-! ## Whole numbers -/

theorem toList_toString (n : ℤ) : (toString n).toList = withSign (decide (n < 0)) (digits n.natAbs) := by
  cases n with
  | ofNat n => rfl
  | negSucc n =>
      change ("-" ++ Nat.repr (n + 1)).toList = _
      rw [String.toList_append, decide_eq_true (Int.negSucc_lt_zero n)]
      rfl

theorem digits_mem_numberChars (n : ℕ) : ∀ c ∈ digits n, c ∈ numberChars :=
  fun _ member => mem_numberChars (isDigit_of_mem_digits member)

theorem toString_eq (n : ℤ) : toString n = String.ofList (withSign (decide (n < 0)) (digits n.natAbs)) := by
  rw [← toList_toString, String.ofList_toList]

theorem ofForm_int (n : ℤ) : Tag.ofForm (toString n) = .int := by
  have filled : withSign (decide (n < 0)) (digits n.natAbs) ≠ [] := by
    rw [withSign]
    split
    · exact List.cons_ne_nil _ _
    · exact digits_ne_nil _
  rw [toString_eq, ofForm_of_number filled (withSign_mem_numberChars _ (digits_mem_numberChars _))
    (by rw [isInt_digits, Bool.or_true]), isFloat_digits, if_neg Bool.false_ne_true]

theorem allowsPlain_int (n : ℤ) : Style.allowsPlain (toString n).toList = true := by
  obtain ⟨c, ds, shape⟩ := List.exists_cons_of_ne_nil (digits_ne_nil n.natAbs)
  have numeric := digits_mem_numberChars n.natAbs
  rw [toList_toString, shape]
  rw [shape] at numeric
  refine allowsPlain_number _ (isDigit_of_mem_digits (n := n.natAbs) ?_) numeric
  rw [shape]
  exact List.mem_cons_self

theorem digitOf?_of_isDigit (digit : c.isDigit = true) : digitOf? 10 c = some (c.toNat - 48) := by
  have all : ∀ c ∈ numberChars.take 10, (digitOf? 10 c == some (c.toNat - 48)) = true := List.all_eq_true.1 (by decide)
  exact beq_iff_eq.1 (all c (mem_numberChars_of_isDigit digit))

/-- Digits are counted and read one after the other. -/
theorem digitRun?_go (digits : ∀ c ∈ ds, c.isDigit = true) (value count : ℕ) :
    digitRun?.go 10 value count ds = some (Nat.ofDigitChars 10 ds value, count + ds.length) := by
  induction ds generalizing value count with
  | nil => rfl
  | cons c ds ih =>
      obtain ⟨digit, later⟩ := List.forall_mem_cons.1 digits
      have next := ih later (value * 10 + (c.toNat - 48)) (count + 1)
      have other : c ≠ '_' := by
        rintro rfl
        cases digit
      rw [digitRun?.go]
      · rw [digitOf?_of_isDigit digit]
        simp only [Option.bind_eq_bind, Option.bind_some, next, Nat.ofDigitChars_cons, List.length_cons]
        rw [Nat.mul_comm value, Nat.add_right_comm, Nat.add_assoc count]
        rfl
      · exact fun same _ => other same
      · exact fun _ _ same _ => other same

theorem digitRun?_digits (n : ℕ) : digitRun? 10 (digits n) = some (n, (digits n).length) := by
  have value := naturalOf_digits n
  have all : ∀ c ∈ digits n, c.isDigit = true := fun c member => isDigit_of_mem_digits member
  obtain ⟨c, ds, shape⟩ := List.exists_cons_of_ne_nil (digits_ne_nil n)
  rw [shape] at value all
  rw [shape, digitRun?, digitOf?_of_isDigit (all c List.mem_cons_self)]
  simp only [Option.bind_eq_bind, Option.bind_some]
  rw [digitRun?_go fun x member => all x (List.mem_cons_of_mem _ member)]
  rw [naturalOf_eq, Nat.ofDigitChars_cons, Nat.mul_zero, Nat.zero_add] at value
  rw [List.length_cons, Nat.add_comm 1]
  exact congrArg (fun v => some (v, ds.length + 1)) value

/-- Numbers in base ten have no mark of their base. -/
theorem dropBaseMark_ten (cs : List Char) : dropBaseMark 10 cs = cs := by
  cases cs with
  | nil => rfl
  | cons c cs =>
      cases cs with
      | nil => rw [dropBaseMark]; simp
      | cons d cs => unfold dropBaseMark; split <;> simp_all

theorem splitSign_withSign (negative : Bool) (digit : c.isDigit = true) :
    splitSign (withSign negative (c :: cs)) = (negative, c :: cs) := by
  cases negative with
  | true => rfl
  | false => exact splitSign_of_isDigit digit

theorem integer_digits {n : ℕ} (short : (digits n).length ≤ digitLimit) :
    Decimal.integer 10 (String.ofList (digits n)) = .ok (n : ℤ) := by
  have all : ∀ c ∈ digits n, c.isDigit = true := fun c member => isDigit_of_mem_digits member
  have unsigned : splitSign (digits n) = (false, digits n) := by
    obtain ⟨c, ds, shape⟩ := List.exists_cons_of_ne_nil (digits_ne_nil n)
    rw [shape] at all ⊢
    exact splitSign_of_isDigit (all c List.mem_cons_self)
  have ahead : (digits n).takeWhile (fun c => (digitOf? 10 c).isSome || c == '_') = digits n := by
    refine List.takeWhile_eq_self_iff.2 fun c member => ?_
    rw [digitOf?_of_isDigit (all c member)]
    rfl
  rw [Decimal.integer, numeralText_ofList (digits_mem_numberChars n), unsigned]
  simp only [dropBaseMark_ten, ahead, digitRun?_digits, Nat.not_lt.2 short, lt_irrefl]
  rfl

theorem magnitude_digits {n : ℕ} (short : (digits n).length ≤ digitLimit) :
    Scalar.magnitude (digits n) = .ok (n : ℤ) := by
  obtain rfl | positive := Nat.eq_zero_or_pos n
  · rfl
  · have head := head?_digits positive
    have noColon : (digits n).contains ':' = false := by
      rw [Bool.eq_false_iff]
      intro member
      exact absurd (isDigit_of_mem_digits (List.contains_iff_mem.1 member)) (by decide)
    have read : Scalar.integerIn 10 (digits n) = .ok (n : ℤ) := by
      rw [Scalar.integerIn, integer_digits short]
      rfl
    have filled := digits_ne_nil n
    generalize digits n = ds at *
    unfold Scalar.magnitude
    split
    · exact absurd rfl filled
    all_goals first
      | exact absurd rfl head
      | rw [noColon, if_neg Bool.false_ne_true, read]

/-- A number has no underscores to pass over. -/
theorem filter_numeric (numeric : ∀ c ∈ cs, c ∈ numberChars) : cs.filter (· != '_') = cs :=
  List.filter_eq_self.2 fun c member => (neutral_of_mem_numberChars (numeric c member)).noUnderscore

theorem signed_withSign (negative : Bool) (digit : c.isDigit = true) :
    Scalar.signed (withSign negative (c :: cs)) = .ok (negative, c :: cs) := by
  have some : (withSign negative (c :: cs)).isEmpty = false := by cases negative <;> rfl
  rw [Scalar.signed, some, if_neg Bool.false_ne_true, splitSign_withSign negative digit]

theorem integer_toString {n : ℤ} (short : isTooLong n = false) : Scalar.integer (toString n) = .ok n := by
  have fits : (digits n.natAbs).length ≤ digitLimit := by
    rw [isTooLong, decide_eq_false_iff_not, Nat.not_lt] at short
    exact short
  have read := magnitude_digits fits
  have numeric := digits_mem_numberChars n.natAbs
  have all : ∀ c ∈ digits n.natAbs, c.isDigit = true := fun c member => isDigit_of_mem_digits member
  obtain ⟨c, ds, shape⟩ := List.exists_cons_of_ne_nil (digits_ne_nil n.natAbs)
  rw [Scalar.integer, toList_toString, filter_numeric (withSign_mem_numberChars _ numeric)]
  rw [shape] at read all ⊢
  rw [signed_withSign _ (all c List.mem_cons_self)]
  simp only [bind, Except.bind, read, decide_eq_true_eq]
  change Except.ok (if n < 0 then -(n.natAbs : ℤ) else n.natAbs) = Except.ok n
  congr 1
  split <;> omega

/-! ## Binary64 numbers -/

theorem lower_of_numeric (numeric : ∀ c ∈ cs, c ∈ numberChars) : Text.lower (String.ofList cs) = String.ofList cs := by
  have from_ : ∀ (before : List Char) {cs : List Char}, (∀ c ∈ cs, c ∈ numberChars) →
      Text.lowerFrom before cs = cs := by
    intro before cs numeric
    induction cs generalizing before with
    | nil => rfl
    | cons c cs ih =>
        obtain ⟨here, later⟩ := List.forall_mem_cons.1 numeric
        obtain ⟨-, -, -, -, -, -, same, ascii⟩ := neutral_of_mem_numberChars here
        have noSigma : (c.toNat == 0x3A3) = false := by rw [beq_eq_false_iff_ne]; omega
        have noDot : (c.toNat == 0x130) = false := by rw [beq_eq_false_iff_ne]; omega
        rw [Text.lowerFrom, noSigma, noDot, same, ih _ later]
        rfl
  rw [Text.lower, String.toList_ofList, from_ [] numeric]

/-- A decimal with a point is read as the number nearest to its value. -/
theorem float_spelled (spelled : Spelled cs m e) (negative : Bool) :
    Scalar.float (String.ofList (withSign negative cs)) = .ok (if negative then -nearest m e else nearest m e) := by
  have numeric := withSign_mem_numberChars negative spelled.mem_numberChars
  have read : Scalar.decimal cs = .ok (nearest m e) := by rw [Scalar.decimal, spelled.float?]
  have noColon : cs.contains ':' = false := by
    rw [Bool.eq_false_iff]
    intro member
    exact absurd (neutral_of_mem_numberChars (spelled.mem_numberChars _ (List.contains_iff_mem.1 member))).noIndicator
      (by decide)
  obtain ⟨c, rest, rfl, digit⟩ := spelled.head
  have noInf : (c :: rest == ".inf".toList) = false := by
    rw [beq_eq_false_iff_ne]
    rintro ⟨⟩
    cases digit
  have noNan : (c :: rest == ".nan".toList) = false := by
    rw [beq_eq_false_iff_ne]
    rintro ⟨⟩
    cases digit
  rw [Scalar.float, lower_of_numeric numeric, String.toList_ofList, filter_numeric numeric,
    signed_withSign negative digit]
  simp only [bind, Except.bind, noInf, noNan, noColon, read, Bool.false_eq_true, if_false]
  rfl

/-- One digit with an exponent is cut in front of its mark. -/
theorem splits_at_exponent (digit : c.isDigit = true) (negative : Bool) (k : ℤ) :
    (withSign negative (c :: exponentMark k)).contains 'e' = true ∧
      (withSign negative (c :: exponentMark k)).takeWhile (· != 'e') = withSign negative [c] ∧
      (withSign negative (c :: exponentMark k)).dropWhile (· != 'e') = exponentMark k ∧
      (withSign negative (c :: exponentMark k)).contains '.' = false := by
  have noMark : c ≠ 'e' := by
    rintro rfl
    cases digit
  have noDot : '.' ≠ c := by
    rintro rfl
    cases digit
  have inside : '.' ∉ padded 2 k.natAbs := fun member => absurd (isDigit_of_mem_padded member) (by decide)
  rw [exponentMark_eq]
  cases negative <;> by_cases down : k < 0 <;> simp [withSign, down, noMark, noDot, inside]

/-- The written form of a finite number is a decimal with a point, and the number is the nearest to it. -/
theorem exists_floatText {x : Float} (finite : x.isFinite = true) :
    ∃ negative cs m e, floatText x = String.ofList (withSign negative cs) ∧ Spelled cs m e ∧
      x = if negative then -nearest m e else nearest m e := by
  have ordinary := ordinary_of_isFinite finite
  obtain ⟨parts, found⟩ : ∃ parts, finite? x = some parts := ⟨_, by rw [finite?, if_pos finite]⟩
  obtain ⟨body, written, ⟨m, e, spelled, value⟩ | ⟨d, k, digit, rfl, ⟨m, e, spelled, value⟩⟩⟩ :=
    writeFinite_cases (digits_shortest_pos found)
  · refine ⟨parts.negative, body, m, e, ?_, spelled, eq_nearest_of_finite? found value⟩
    have dot : (withSign parts.negative body).contains '.' = true := by
      rw [List.contains_iff_mem]
      cases parts.negative with
      | false => exact spelled.dot_mem
      | true => exact List.mem_cons_of_mem _ spelled.dot_mem
    rw [floatText, ordinary.1, ordinary.2, Decimal.shortest, found]
    simp only [String.toList_ofList, written]
    rw [← withSign, dot, Bool.not_true, Bool.and_false]
    rfl
  · -- One digit with an exponent gets a point and a zero in front of the mark.
    refine ⟨parts.negative, _, m, e, ?_, spelled, eq_nearest_of_finite? found value⟩
    obtain ⟨mark, front, behind, noDot⟩ := splits_at_exponent digit parts.negative k
    rw [floatText, ordinary.1, ordinary.2, Decimal.shortest, found]
    simp only [String.toList_ofList, written]
    rw [← withSign, mark, noDot, front, behind]
    cases parts.negative <;> rfl

theorem floatText_of_not_isFinite {x : Float} (endless : x.isFinite = false) :
    (floatText x = ".nan" ∧ x = 0 / 0) ∨ (floatText x = ".inf" ∧ x = 1 / 0) ∨
    (floatText x = "-.inf" ∧ x = -(1 / 0)) := by
  have packed := eq_pack_unpack x
  change x.toModel.unpack.isFinite = false at endless
  generalize x.toModel.unpack = u at *
  cases u with
  | notANumber => 
    subst packed
    exact .inl ⟨rfl, rfl⟩
  | infinity sign =>
      cases sign with
      | positive => 
        subst packed
        exact .inr (.inl ⟨rfl, rfl⟩)
      | negative => 
        subst packed
        exact .inr (.inr ⟨rfl, rfl⟩)
  | zero | finite => cases endless

theorem ofForm_float (x : Float) : Tag.ofForm (floatText x) = .float := by
  cases finite : x.isFinite with
  | true =>
      obtain ⟨negative, cs, m, e, written, spelled, -⟩ := exists_floatText finite
      have float := isFloat_spelled spelled negative
      obtain ⟨c, rest, rfl, -⟩ := spelled.head
      have filled : withSign negative (c :: rest) ≠ [] := by cases negative <;> exact List.cons_ne_nil _ _
      rw [written, ofForm_of_number filled (withSign_mem_numberChars negative spelled.mem_numberChars)
        (by rw [float, Bool.true_or]),
        if_pos float]
  | false =>
      obtain ⟨written, -⟩ | ⟨written, -⟩ | ⟨written, -⟩ := floatText_of_not_isFinite finite
      all_goals
        rw [written]
        decide

theorem allowsPlain_float (x : Float) : Style.allowsPlain (floatText x).toList = true := by
  cases finite : x.isFinite with
  | true =>
      obtain ⟨negative, cs, m, e, written, spelled, -⟩ := exists_floatText finite
      have numeric := spelled.mem_numberChars
      obtain ⟨c, rest, rfl, digit⟩ := spelled.head
      rw [written, String.toList_ofList]
      exact allowsPlain_number negative digit numeric
  | false =>
      obtain ⟨written, -⟩ | ⟨written, -⟩ | ⟨written, -⟩ := floatText_of_not_isFinite finite
      all_goals
        rw [written]
        decide

/-- A binary64 number is read as itself, bit for bit. -/
theorem float_floatText (x : Float) : Scalar.float (floatText x) = .ok x := by
  cases finite : x.isFinite with
  | true =>
      obtain ⟨negative, cs, m, e, written, spelled, same⟩ := exists_floatText finite
      rw [written, float_spelled spelled negative, ← same]
  | false =>
      obtain ⟨written, same⟩ | ⟨written, same⟩ | ⟨written, same⟩ := floatText_of_not_isFinite finite
      all_goals
        rw [written, same]
        rfl

end

end Triage.Yaml
