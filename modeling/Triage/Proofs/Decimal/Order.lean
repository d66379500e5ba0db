import Triage.Proofs.Decimal.Shortest
import Triage.Quantity

/-!
# The order of binary64 numbers

Finite binary64 numbers are in the order of their values, and rounding never turns the order of two fractions
around. Whole numbers are too large for a binary64 number from a certain one on.
-/

namespace Triage.Decimal

open Float.Model Float.Model.UnpackedFloat

section

variable {m n : ℕ} {e f : ℤ} {v w : ℚ}

/-! ## Mantissas and exponents -/

namespace Normal

/-- The number with the lesser exponent is less, whatever the mantissas are. -/
theorem lt_of_exponent_lt (first : Normal m e) (second : Normal n f) (less : e < f) :
    (m : ℚ) * 2 ^ e < n * 2 ^ f := by
  have full : (2 : ℚ) ^ 52 ≤ n := by
    have least := first.least
    exact_mod_cast second.full.resolve_right (by omega)
  have small : (m : ℚ) < 2 ^ 53 := by exact_mod_cast first.small
  calc (m : ℚ) * 2 ^ e < 2 ^ 53 * 2 ^ e := mul_lt_mul_of_pos_right small (by positivity)
    _ = 2 ^ 52 * 2 ^ (e + 1) := by rw [zpow_add_one₀ two_ne_zero]; ring
    _ ≤ n * 2 ^ f := mul_le_mul full (zpow_le_zpow_right₀ one_le_two (by omega)) (by positivity) (by positivity)

/-- Exponents count first, and mantissas where the exponents agree. -/
theorem compare_eq (first : Normal m e) (second : Normal n f) :
    (compare e f).then (compare m n) = compare ((m : ℚ) * 2 ^ e) (n * 2 ^ f) := by
  obtain less | rfl | more := lt_trichotomy e f
  · rw [compare_lt_iff_lt.2 less, compare_lt_iff_lt.2 (first.lt_of_exponent_lt second less)]
    rfl
  · have unit : (0 : ℚ) < 2 ^ e := by positivity
    rw [compare_eq_iff_eq.2 rfl, Ordering.eq_then]
    obtain less | rfl | more := lt_trichotomy m n
    · have below : (m : ℚ) < n := by exact_mod_cast less
      rw [compare_lt_iff_lt.2 less, compare_lt_iff_lt.2 (mul_lt_mul_of_pos_right below unit)]
    · rw [compare_eq_iff_eq.2 rfl, compare_eq_iff_eq.2 rfl]
    · have above : (n : ℚ) < m := by exact_mod_cast more
      rw [compare_gt_iff_gt.2 more, compare_gt_iff_gt.2 (mul_lt_mul_of_pos_right above unit)]
  · rw [compare_gt_iff_gt.2 more, compare_gt_iff_gt.2 (second.lt_of_exponent_lt first more)]
    rfl

end Normal

/-! ## Rounding -/

namespace RoundsTo

/-- Below the middle between the greatest mantissa and the next power of two; the middle itself is carried to
the power, since the greatest mantissa is odd. -/
theorem lt_carry (rounds : RoundsTo v m e) (normal : Normal m e) : v < (2 ^ 53 - 1 / 2) * 2 ^ e := by
  have unit : (0 : ℚ) < 2 ^ e := by positivity
  rw [← div_lt_iff₀ unit]
  obtain near | ⟨tie, even⟩ := rounds.1
  · have small : (m : ℚ) + 1 ≤ 2 ^ 53 := by exact_mod_cast normal.small
    linarith [le_abs_self (v / 2 ^ e - m)]
  · have small : (m : ℚ) + 2 ≤ 2 ^ 53 := by
      have bound := normal.small
      exact_mod_cast show m + 2 ≤ 2 ^ 53 by omega
    linarith [le_abs_self (v / 2 ^ e - m)]

/-- At least the middle between the numbers below a power of two and the power. -/
theorem carry_le (rounds : RoundsTo v m e) (full : 2 ^ 52 ≤ m) (more : -1074 < e) :
    (2 ^ 53 - 1 / 2) * 2 ^ (e - 1) ≤ v := by
  have unit : (0 : ℚ) < 2 ^ e := by positivity
  have finer : (2 : ℚ) ^ (e - 1) = 2 ^ e / 2 := zpow_sub_one₀ two_ne_zero e
  obtain power | above := full.eq_or_lt
  · by_cases below : v < 2 ^ 52 * 2 ^ e
    · exact rounds.2 power.symm more below
    · rw [finer]
      linarith
  · have large : (2 : ℚ) ^ 52 + 1 ≤ m := by exact_mod_cast above
    have low := rounds.1.bounds.1
    have middle : 2 ^ 52 + 1 / 2 ≤ v / 2 ^ e := by linarith
    rw [le_div_iff₀ unit] at middle
    rw [finer]
    linarith

/-- Of two fractions the lesser does not round to a greater number. -/
theorem mono (first : RoundsTo v m e) (normal : Normal m e) (second : RoundsTo w n f) (normal' : Normal n f)
    (le : v ≤ w) : (m : ℚ) * 2 ^ e ≤ n * 2 ^ f := by
  have unit : (0 : ℚ) < 2 ^ e := by positivity
  obtain less | rfl | more := lt_trichotomy e f
  · exact (normal.lt_of_exponent_lt normal' less).le
  · refine mul_le_mul_of_nonneg_right ?_ unit.le
    by_contra above
    have whole : n + 1 ≤ m := by
      have cast : n < m := by exact_mod_cast not_le.1 above
      omega
    have apart : (n : ℚ) + 1 ≤ m := by exact_mod_cast whole
    have order : v / 2 ^ e ≤ w / 2 ^ e := div_le_div_of_nonneg_right le unit.le
    -- Only the middle between two neighbours lies below the one and above the other.
    have same : v / 2 ^ e = w / 2 ^ e := by linarith [first.1.bounds.1, second.1.bounds.2]
    have equal : m = n := first.1.unique (same ▸ second.1)
    omega
  · have least := normal'.least
    have full := normal.full.resolve_right (by omega)
    have high := second.lt_carry normal'
    have low := first.carry_le full (by omega)
    have power : (2 : ℚ) ^ f ≤ 2 ^ (e - 1) := zpow_le_zpow_right₀ one_le_two (by omega)
    have scaled : (2 ^ 53 - 1 / 2) * (2 : ℚ) ^ f ≤ (2 ^ 53 - 1 / 2) * 2 ^ (e - 1) :=
      mul_le_mul_of_nonneg_left power (by norm_num)
    linarith

end RoundsTo

end

/-! ## Values -/

/-- The value of a number that is finite. -/
def valueOf : UnpackedFloat → ℚ
  | .finite .positive m e _ => m * 2 ^ e
  | .finite .negative m e _ => -(m * 2 ^ e)
  | .infinity _ | .notANumber | .zero _ => 0

/-- A number whose mantissa and exponent are as binary64 numbers have them. -/
def IsCanonical : UnpackedFloat → Prop
  | .finite _ m e _ => Normal m e
  | .infinity _ | .notANumber | .zero _ => True

theorem compare_neg_neg (v w : ℚ) : compare (-v) (-w) = compare w v := by
  obtain less | rfl | more := lt_trichotomy v w
  · rw [compare_gt_iff_gt.2 less, compare_gt_iff_gt.2 (neg_lt_neg less)]
  · rw [compare_eq_iff_eq.2 rfl, compare_eq_iff_eq.2 rfl]
  · rw [compare_lt_iff_lt.2 more, compare_lt_iff_lt.2 (neg_lt_neg more)]

/-- Finite numbers are compared by their values. -/
theorem compare_eq_value {x y : UnpackedFloat} (first : IsCanonical x) (second : IsCanonical y)
    (finite : x.isFinite = true) (finite' : y.isFinite = true) :
    x.compare y = some (compare (valueOf x) (valueOf y)) := by
  have below {v w : ℚ} (less : v < w) : some Ordering.lt = some (compare v w) :=
    congrArg some (compare_lt_iff_lt.2 less).symm
  have above {v w : ℚ} (more : w < v) : some Ordering.gt = some (compare v w) :=
    congrArg some (compare_gt_iff_gt.2 more).symm
  have size {m : ℕ} (e : ℤ) (positive : 0 < m) : (0 : ℚ) < m * 2 ^ e := by positivity
  -- the signs decide unless they are the same
  cases x with
  | notANumber | infinity => cases finite
  | zero s =>
      cases y with
      | notANumber | infinity => cases finite'
      | zero t => rfl
      | finite t n f positive' =>
          have more := size f positive'
          cases t with
          | negative => exact above (neg_neg_of_pos more)
          | positive => exact below more
  | finite s m e positive =>
      have some := size e positive
      cases y with
      | notANumber | infinity => cases finite'
      | zero t =>
          cases s with
          | negative => exact below (neg_neg_of_pos some)
          | positive => exact above some
      | finite t n f positive' =>
          have more := size f positive'
          cases s with
          | negative =>
              cases t with
              | negative =>
                  refine congrArg Option.some ?_
                  rw [first.compare_eq second, ← Std.OrientedOrd.eq_swap]
                  exact (compare_neg_neg _ _).symm
              | positive => exact below ((neg_neg_of_pos some).trans more)
          | positive =>
              cases t with
              | negative => exact above ((neg_neg_of_pos more).trans some)
              | positive => exact congrArg Option.some (first.compare_eq second)

/-! ## Binary64 numbers -/

section

variable {x y : Float} {parts : Binary}

/-- A number has parts, is none at all, or is an infinity. -/
theorem unpack_cases (x : Float) : (∃ parts, finite? x = some parts ∧ x.toModel.unpack = parts.unpacked) ∨
    finite? x = none ∧ (x.toModel.unpack = .notANumber ∨ ∃ s, x.toModel.unpack = .infinity s) := by
  cases found : finite? x with
  | some parts => exact .inl ⟨parts, rfl, unpack_of_finite? found⟩
  | none =>
      refine .inr ⟨rfl, ?_⟩
      have special : x.isFinite ≠ true := fun finite => by
        rw [finite?, if_pos finite] at found
        cases found
      cases given : x.toModel.unpack with
      | notANumber => exact .inl rfl
      | infinity s => exact .inr ⟨s, rfl⟩
      | zero | finite => exact absurd (congrArg UnpackedFloat.isFinite given) special

theorem isCanonical_unpack (x : Float) : IsCanonical x.toModel.unpack := by
  obtain ⟨parts, found, given⟩ | ⟨-, given | ⟨s, given⟩⟩ := unpack_cases x
  · rw [given, Binary.unpacked]
    split
    · trivial
    · rename_i some
      exact (normal_of_finite? found (Nat.pos_of_ne_zero some)).1
  · rw [given]
    trivial
  · rw [given]
    trivial

theorem Binary.toRat_eq (parts : Binary) : parts.toRat = valueOf parts.unpacked := by
  have size : mkRat parts.numerator parts.denominator = (parts.m : ℚ) * 2 ^ parts.q := by
    rw [Binary.magnitude, Rat.mkRat_eq_div, Int.cast_natCast]
  rw [Binary.toRat, size, Binary.unpacked, Binary.sign]
  by_cases none : parts.m = 0
  · rw [dif_pos none, none]
    simp [valueOf]
  · rw [dif_neg none]
    cases parts.negative <;> rfl

theorem ratOf_eq_valueOf (x : Float) : ratOf x = valueOf x.toModel.unpack := by
  obtain ⟨parts, found, given⟩ | ⟨found, given | ⟨s, given⟩⟩ := unpack_cases x
  · rw [ratOf, found, given]
    exact parts.toRat_eq
  · rw [ratOf, found, given]
    rfl
  · rw [ratOf, found, given]
    rfl

theorem lt_iff_unpack : x < y ↔ x.toModel.unpack.lt y.toModel.unpack = true := decide_eq_true_iff

theorem le_iff_unpack : x ≤ y ↔ x.toModel.unpack.le y.toModel.unpack = true := decide_eq_true_iff

theorem lt_iff_ratOf (finite : x.isFinite = true) (finite' : y.isFinite = true) : x < y ↔ ratOf x < ratOf y := by
  have order := compare_eq_value (isCanonical_unpack x) (isCanonical_unpack y) finite finite'
  rw [ratOf_eq_valueOf, ratOf_eq_valueOf, ← compare_lt_iff_lt, lt_iff_unpack, UnpackedFloat.lt, order]
  simp

theorem le_iff_ratOf (finite : x.isFinite = true) (finite' : y.isFinite = true) : x ≤ y ↔ ratOf x ≤ ratOf y := by
  have order := compare_eq_value (isCanonical_unpack x) (isCanonical_unpack y) finite finite'
  rw [ratOf_eq_valueOf, ratOf_eq_valueOf, ← compare_le_iff_le, le_iff_unpack, UnpackedFloat.le, order]
  exact Ordering.isLE_iff_ne_gt

/-! ## Zero and one -/

@[simp]
theorem isFinite_zero : (0 : Float).isFinite = true := by
  decide +kernel

@[simp]
theorem isFinite_one : (1 : Float).isFinite = true := by
  decide +kernel

@[simp]
theorem ratOf_zero : ratOf 0 = 0 := by
  decide +kernel

@[simp]
theorem ratOf_one : ratOf 1 = 1 := by
  decide +kernel

theorem nonneg_iff_ratOf (finite : x.isFinite = true) : 0 ≤ x ↔ 0 ≤ ratOf x := by
  rw [le_iff_ratOf isFinite_zero finite, ratOf_zero]

theorem pos_iff_ratOf (finite : x.isFinite = true) : 0 < x ↔ 0 < ratOf x := by
  rw [lt_iff_ratOf isFinite_zero finite, ratOf_zero]

theorem le_one_iff_ratOf (finite : x.isFinite = true) : x ≤ 1 ↔ ratOf x ≤ 1 := by
  rw [le_iff_ratOf finite isFinite_one, ratOf_one]

theorem lt_one_iff_ratOf (finite : x.isFinite = true) : x < 1 ↔ ratOf x < 1 := by
  rw [lt_iff_ratOf finite isFinite_one, ratOf_one]

/-- A number from zero to one is finite. -/
theorem isFinite_of_inUnit (bounded : (Number.float x).inUnit = true) : x.isFinite = true := by
  obtain ⟨low, high⟩ := Bool.and_eq_true_iff.1 bounded
  replace low := le_iff_unpack.1 (of_decide_eq_true low)
  replace high := le_iff_unpack.1 (of_decide_eq_true high)
  have zero : (0 : Float).toModel.unpack = .zero .positive := by rfl
  have one : (1 : Float).toModel.unpack = .finite .positive (2 ^ 52) (-52) (by decide) := by rfl
  rw [zero] at low
  rw [one] at high
  rcases unpack_cases x with ⟨parts, found, -⟩ | ⟨-, none | ⟨sign, infinite⟩⟩
  · exact (finite?_eq_some found).1
  · rw [none] at high
    cases high
  · rw [infinite] at low high
    cases sign with
    | negative => cases low
    | positive => cases high

theorem ratOf_of_inUnit (bounded : (Number.float x).inUnit = true) : 0 ≤ ratOf x ∧ ratOf x ≤ 1 := by
  have finite := isFinite_of_inUnit bounded
  obtain ⟨low, high⟩ := Bool.and_eq_true_iff.1 bounded
  exact ⟨(nonneg_iff_ratOf finite).1 (of_decide_eq_true low), (le_one_iff_ratOf finite).1 (of_decide_eq_true high)⟩

theorem inUnit_of_belowOne (below : (Number.float x).belowOne = true) : (Number.float x).inUnit = true := by
  obtain ⟨low, high⟩ := Bool.and_eq_true_iff.1 below
  have less := lt_iff_unpack.1 (of_decide_eq_true high)
  rw [UnpackedFloat.lt, beq_iff_eq] at less
  refine Bool.and_eq_true_iff.2 ⟨low, decide_eq_true (le_iff_unpack.2 ?_)⟩
  rw [UnpackedFloat.le, less]
  rfl

theorem ratOf_of_belowOne (below : (Number.float x).belowOne = true) : 0 ≤ ratOf x ∧ ratOf x < 1 := by
  have bounded := inUnit_of_belowOne below
  obtain ⟨-, high⟩ := Bool.and_eq_true_iff.1 below
  exact ⟨(ratOf_of_inUnit bounded).1, (lt_one_iff_ratOf (isFinite_of_inUnit bounded)).1 (of_decide_eq_true high)⟩

/-! ## Whole numbers that are too large -/

theorem isFinite_pack_iff {sign : Sign} {m : ℕ} {e : ℤ} (normal : Normal m e) :
    (Float.ofModel (.pack (.finite sign m e normal.positive))).isFinite = true ↔ e ≤ 971 := by
  refine ⟨exponent_le_of_isFinite normal, fun most => ?_⟩
  change (UnpackedFloat.unpack Format.binary64 (UnpackedFloat.pack Format.binary64
    (.finite sign m e normal.positive))).isFinite = true
  rw [unpack_pack normal most]
  rfl

/-- The middle between the greatest binary64 number and the next power of two, from which on whole numbers
are too large. -/
def overflow : ℕ := 2 ^ 1024 - 2 ^ 970

theorem overflow_eq : (overflow : ℚ) = (2 ^ 53 - 1 / 2) * 2 ^ (971 : ℤ) := by
  have smaller : 2 ^ 970 ≤ 2 ^ 1024 := pow_le_pow_right₀ one_le_two (by norm_num)
  have top : (2 : ℚ) ^ 1024 = 2 ^ 54 * 2 ^ 970 := by rw [← pow_add]
  have next : (2 : ℚ) ^ (971 : ℤ) = 2 * 2 ^ 970 := by rw [← pow_succ']; exact zpow_natCast 2 971
  rw [overflow, Nat.cast_sub smaller, Nat.cast_pow, Nat.cast_pow, Nat.cast_ofNat, top, next]
  generalize (2 : ℚ) ^ 970 = unit
  ring

theorem overflow_le {k n : ℕ} (large : Nat.pow 2 k ≤ n) (top : 1024 ≤ k) : overflow ≤ n :=
  tsub_le_self.trans ((pow_le_pow_right₀ one_le_two top).trans large)

/-- A whole number rounds beyond the greatest exponent from the overflow on. -/
theorem RoundsTo.overflow_le_iff {n M : ℕ} {E : ℤ} (rounds : RoundsTo n M E) (normal : Normal M E) (most : E ≤ 972) :
    overflow ≤ n ↔ ¬ E ≤ 971 := by
  rw [← Nat.cast_le (α := ℚ), overflow_eq]
  constructor
  · intro large small
    have power : (2 : ℚ) ^ E ≤ 2 ^ (971 : ℤ) := zpow_le_zpow_right₀ one_le_two small
    have below := rounds.lt_carry normal
    have scaled := mul_le_mul_of_nonneg_left power (show (0 : ℚ) ≤ 2 ^ 53 - 1 / 2 by norm_num)
    linarith
  · intro large
    obtain rfl : E = 972 := by omega
    exact rounds.carry_le (normal.full.resolve_right (by norm_num)) (by norm_num)

/-- A whole number is too large for a binary64 number from the overflow on. -/
theorem ofInt?_eq_none_iff {n : ℤ} : ofInt? n = none ↔ overflow ≤ n.natAbs := by
  obtain rfl | nonzero := eq_or_ne n 0
  · have some : 0 < overflow := by decide +kernel
    have zero : ofInt? 0 = Option.some 0 := by decide +kernel
    rw [zero]
    simp only [reduceCtorEq, false_iff, Int.natAbs_zero]
    omega
  · have positive : 0 < n.natAbs := Int.natAbs_pos.2 nonzero
    unfold ofInt?
    generalize n.natAbs = k at positive ⊢
    split
    · rename_i huge
      exact iff_of_true rfl (overflow_le huge le_rfl)
    · rename_i huge
      obtain ⟨M, E, normal, rounds⟩ := exists_roundsTo_natCast positive
      have most : E ≤ 972 := rounds.exponent_le_of_natCast normal (not_le.1 huge)
      have read : Float.ofScientific k false 0 = .ofModel (.pack (.finite .positive M E normal.positive)) :=
        ofScientific_of_roundsTo normal most (by simpa using rounds)
      have small : E ≤ 971 ↔ (Float.ofModel (.pack (.finite .positive M E normal.positive))).isFinite = true :=
        (isFinite_pack_iff normal).symm
      rw [rounds.overflow_le_iff normal most, small, read]
      dsimp only
      split
      · rename_i finite
        simp [finite]
      · rename_i infinite
        simp [infinite]

end

end Triage.Decimal
