import Triage.Number
import Triage.Proofs.Decimal.Packing

/-!
# Decimals become the nearest binary64 number

A digit string with a power of ten is multiplied or divided out and then rounded once, so it becomes
the number that its value rounds to. Short ones take a shortcut over exact powers, with the same result.
-/

namespace Triage.Decimal

open Float.Model Float.Model.UnpackedFloat

section

variable {m n M : ℕ} {e f E : ℤ}

/-! ## Products and quotients -/

theorem stands_exact (m : ℕ) : Stands (.ofMantissaAndAccuracy m .exact) m :=
  rfl

theorem fifty_two_le_log2 (large : 2 ^ 52 ≤ m) : 52 ≤ m.log2 :=
  (Nat.le_log2 (by omega)).2 large

theorem mul_eq (first : 0 < m) (second : 0 < n) (large : 2 ^ 52 ≤ m * n) (normal : Normal M E)
    (rounds : RoundsTo (m * 2 ^ e * (n * 2 ^ f)) M E) :
    UnpackedFloat.mul Format.binary64 (.finite .positive m e first) (.finite .positive n f second) =
      .finite .positive M E normal.positive := by
  have places := fifty_two_le_log2 large
  have value : (m : ℚ) * 2 ^ e * (n * 2 ^ f) = (m * n : ℕ) * 2 ^ (e + f) := by
    rw [zpow_add₀ two_ne_zero]
    push_cast
    ring
  rw [value] at rounds
  exact roundWithAccuracy_eq .positive (stands_exact _) (by omega) normal rounds

/-- A fraction is its quotient and the share of its rest. -/
theorem fraction_eq (positive : 0 < n) :
    (m / n : ℚ) = (m / n : ℕ) + (m % n : ℕ) / n ∧ ((m % n : ℕ) : ℚ) / n < 1 := by
  have divisor : (0 : ℚ) < n := by exact_mod_cast positive
  have whole : (m : ℚ) = n * (m / n : ℕ) + (m % n : ℕ) := by exact_mod_cast (Nat.div_add_mod m n).symm
  have bound : ((m % n : ℕ) : ℚ) < n := by exact_mod_cast Nat.mod_lt m positive
  refine ⟨?_, (div_lt_one divisor).2 bound⟩
  field_simp
  exact whole

/-- A quotient and the accuracy of its remainder stand for the fraction. -/
theorem stands_div (positive : 0 < n) :
    Stands (.ofMantissaAndAccuracy (m / n) (accuracyOfFraction (m % n) n)) (m / n : ℚ) := by
  have divisor : (0 : ℚ) < n := by exact_mod_cast positive
  obtain ⟨parts, below⟩ := fraction_eq (m := m) positive
  rw [parts]
  generalize m / n = q
  generalize m % n = r at below ⊢
  by_cases none : r = 0
  · rw [accuracyOfFraction, if_pos none, none]
    simp [ExtendedMantissa.ofMantissaAndAccuracy, Stands]
  · have some : (0 : ℚ) < r := by exact_mod_cast Nat.pos_of_ne_zero none
    have inside : (0 : ℚ) < r / n := by positivity
    rw [accuracyOfFraction, if_neg none]
    cases order : compare (2 * r) n with
    | lt =>
        have half : (2 * r : ℚ) < n := by exact_mod_cast Nat.compare_eq_lt.1 order
        have less : (r : ℚ) / n < 1 / 2 := by
          rw [div_lt_div_iff₀ divisor two_pos]
          linarith
        simp only [ExtendedMantissa.ofMantissaAndAccuracy, Stands]
        constructor <;> linarith
    | eq =>
        have half : (2 * r : ℚ) = n := by exact_mod_cast Nat.compare_eq_eq.1 order
        have same : (r : ℚ) / n = 1 / 2 := by
          rw [div_eq_div_iff divisor.ne' two_ne_zero]
          linarith
        exact congrArg (_ + ·) same
    | gt =>
        have half : (n : ℚ) < 2 * r := by exact_mod_cast Nat.compare_eq_gt.1 order
        have more : 1 / 2 < (r : ℚ) / n := by
          rw [div_lt_div_iff₀ two_pos divisor]
          linarith
        simp only [ExtendedMantissa.ofMantissaAndAccuracy, Stands]
        constructor <;> linarith

/-- The quotient has digits enough. -/
theorem quotient_large {s : ℕ} (positive : 0 < n) (first : 0 < m) (shift : n.log2 + 53 ≤ m.log2 + s) :
    2 ^ 52 ≤ (m <<< s) / n := by
  rw [Nat.le_div_iff_mul_le positive, Nat.shiftLeft_eq]
  calc 2 ^ 52 * n ≤ 2 ^ 52 * 2 ^ (n.log2 + 1) := Nat.mul_le_mul_left _ Nat.lt_log2_self.le
    _ = 2 ^ (n.log2 + 53) := by rw [← pow_add]; congr 1; omega
    _ ≤ 2 ^ (m.log2 + s) := Nat.pow_le_pow_right two_pos shift
    _ ≤ m * 2 ^ s := by rw [pow_add]; exact Nat.mul_le_mul_right _ (Nat.log2_self_le first.ne')

theorem div_eq (sign : Sign) (first : 0 < m) (second : 0 < n) (normal : Normal M E)
    (rounds : RoundsTo (m * 2 ^ e / (n * 2 ^ f)) M E) :
    UnpackedFloat.div Format.binary64 (.finite sign m e first) (.finite .positive n f second) =
      .finite sign M E normal.positive := by
  have target : Format.binary64.targetExponent (totalExponent m e - totalExponent n f) =
      max ((m.log2 : ℤ) - n.log2 + (e - f) - 53) (-1074) := by
    simp only [Format.targetExponent, totalExponent, Format.mantissaBits, Format.minExponent]
    norm_num
    omega
  obtain ⟨t, exponent⟩ : ∃ t, min (e - f) (max ((m.log2 : ℤ) - n.log2 + (e - f) - 53) (-1074)) = t := ⟨_, rfl⟩
  obtain ⟨s, shift⟩ : ∃ s : ℕ, (s : ℤ) = e - f - t := ⟨(e - f - t).toNat, Int.toNat_of_nonneg (by omega)⟩
  have core : divCore Format.binary64 m e n f =
      ((m <<< s) / n, t, accuracyOfFraction ((m <<< s) % n) n) := by
    rw [divCore, target]
    simp only [exponent, ← shift, Int.toNat_natCast]
  have divisor : (n : ℚ) ≠ 0 := by exact_mod_cast second.ne'
  have value : (m : ℚ) * 2 ^ e / (n * 2 ^ f) = ((m <<< s : ℕ) / n : ℚ) * 2 ^ t := by
    have scale : (2 : ℚ) ^ e = 2 ^ (s : ℤ) * 2 ^ t * 2 ^ f := by
      rw [← zpow_add₀ two_ne_zero, ← zpow_add₀ two_ne_zero]
      congr 1
      omega
    rw [Nat.shiftLeft_eq, scale]
    push_cast
    rw [zpow_natCast]
    field_simp
  rw [value] at rounds
  have below : t ≤ max ((((m <<< s) / n).log2 : ℤ) + t - 52) (-1074) := by
    by_cases low : t ≤ -1074
    · omega
    · have places := fifty_two_le_log2 (quotient_large (s := s) second first (by omega))
      omega
  have kept : sign / .positive = sign := by cases sign <;> rfl
  simp only [UnpackedFloat.div, core, kept]
  exact roundWithAccuracy_eq sign (stands_div second) below normal rounds

end

/-! ## Decimals -/

namespace RoundsTo

variable {v : ℚ} {M : ℕ} {E : ℤ}

/-- A fraction that rounds to a number is more than nothing. -/
theorem least_le (rounds : RoundsTo v M E) (normal : Normal M E) : (2 : ℚ) ^ (-1075 : ℤ) ≤ v := by
  have unit : (0 : ℚ) < 2 ^ E := by positivity
  have one : (1 : ℚ) ≤ M := by exact_mod_cast normal.positive
  have half : 1 / 2 ≤ v / 2 ^ E := by linarith [rounds.1.bounds.1]
  rw [le_div_iff₀ unit] at half
  calc (2 : ℚ) ^ (-1075 : ℤ) ≤ 2 ^ (E - 1) := zpow_le_zpow_right₀ one_le_two (by linarith [normal.least])
    _ = 1 / 2 * 2 ^ E := by rw [zpow_sub_one₀ two_ne_zero]; ring
    _ ≤ v := half

theorem lt_two_pow (rounds : RoundsTo v M E) (normal : Normal M E) : v < 2 ^ (53 + E) :=
  rounds.1.lt_top normal.small

theorem pos_of_natCast_mul {m : ℕ} (rounds : RoundsTo (m * v) M E) (normal : Normal M E) : 0 < m := by
  by_contra none
  obtain rfl : m = 0 := by omega
  have low := rounds.least_le normal
  have least : (0 : ℚ) < 2 ^ (-1075 : ℤ) := by positivity
  simp only [Nat.cast_zero, zero_mul] at low
  linarith

end RoundsTo

section

variable {m k M : ℕ} {e E : ℤ}

theorem exponent_le_of_roundsTo (normal : Normal M E) (most : E ≤ 972) (rounds : RoundsTo (m * 10 ^ e) M E) :
    e ≤ 2 ^ 11 := by
  by_contra huge
  have one : (1 : ℚ) ≤ m := by exact_mod_cast rounds.pos_of_natCast_mul normal
  have high := rounds.lt_two_pow normal
  have power : (2 : ℚ) ^ (1025 : ℤ) ≤ 10 ^ e := by
    calc (2 : ℚ) ^ (1025 : ℤ) ≤ 10 ^ (1025 : ℤ) := zpow_le_zpow_left₀ (by norm_num) (by norm_num) (by norm_num)
      _ ≤ 10 ^ e := zpow_le_zpow_right₀ (by norm_num) (by omega)
  have top : (2 : ℚ) ^ (53 + E) ≤ 2 ^ (1025 : ℤ) := zpow_le_zpow_right₀ one_le_two (by omega)
  have ten : (0 : ℚ) < 10 ^ e := by positivity
  have product : (10 : ℚ) ^ e ≤ m * 10 ^ e := le_mul_of_one_le_left ten.le one
  linarith

theorem le_exponent_of_roundsTo (normal : Normal M E) (rounds : RoundsTo (m * 10 ^ e) M E) :
    -((2 ^ 11 : ℤ) + m.log2) ≤ e := by
  by_contra tiny
  have low := rounds.least_le normal
  have size : (m : ℚ) ≤ 2 ^ ((m.log2 : ℤ) + 1) := by exact_mod_cast (Nat.lt_log2_self (n := m)).le
  have power : (10 : ℚ) ^ e ≤ 2 ^ e := by
    obtain ⟨k, rfl⟩ : ∃ k : ℕ, e = -k := ⟨(-e).toNat, by omega⟩
    rw [zpow_neg, zpow_neg, zpow_natCast, zpow_natCast]
    exact inv_anti₀ (by positivity) (pow_le_pow_left₀ (by norm_num) (by norm_num) k)
  have ten : (0 : ℚ) < 10 ^ e := by positivity
  have product : (m : ℚ) * 10 ^ e ≤ 2 ^ ((m.log2 : ℤ) + 1 + e) := by
    rw [zpow_add₀ two_ne_zero]
    exact mul_le_mul size power ten.le (by positivity)
  have bottom : (2 : ℚ) ^ ((m.log2 : ℤ) + 1 + e) < 2 ^ (-1075 : ℤ) :=
    zpow_lt_zpow_right₀ one_lt_two (by omega)
  linarith

theorem decimal_eq_mul (up : 0 ≤ e) :
    (m : ℚ) * (10 : ℚ) ^ e = (m <<< 53 : ℕ) * 2 ^ (-53 : ℤ) * ((10 ^ e.toNat : ℕ) * 2 ^ (0 : ℤ)) := by
  have power : (10 : ℚ) ^ e = 10 ^ e.toNat := by
    rw [← zpow_natCast, Int.toNat_of_nonneg up]
  rw [power, Nat.shiftLeft_eq]
  push_cast
  norm_num
  ring

theorem decimal_eq_div (down : e < 0) :
    (m : ℚ) * (10 : ℚ) ^ e = m * 2 ^ (0 : ℤ) / ((10 ^ (-e).toNat : ℕ) * 2 ^ (0 : ℤ)) := by
  have power : (10 : ℚ) ^ e = (10 ^ (-e).toNat)⁻¹ := by
    rw [← zpow_natCast, Int.toNat_of_nonneg (by omega), zpow_neg, inv_inv]
  rw [power]
  push_cast
  simp [div_eq_mul_inv]

/-- The general way to read a decimal, by one product or one quotient. -/
theorem ofScientific_eq (normal : Normal M E) (most : E ≤ 972) (rounds : RoundsTo (m * 10 ^ e) M E) :
    UnpackedFloat.ofScientific Format.binary64 m e = .finite .positive M E normal.positive := by
  have positive := rounds.pos_of_natCast_mul normal
  have notHuge := exponent_le_of_roundsTo normal most rounds
  have notTiny := le_exponent_of_roundsTo normal rounds
  rw [UnpackedFloat.ofScientific, dif_neg positive.ne', if_neg notHuge.not_gt, if_neg notTiny.not_gt]
  split
  · rename_i up
    have large : 2 ^ 52 ≤ m <<< 53 * 10 ^ e.toNat := by
      calc 2 ^ 52 ≤ 1 * 2 ^ 53 := by norm_num
        _ ≤ m * 2 ^ 53 := Nat.mul_le_mul_right _ positive
        _ = m <<< 53 := (Nat.shiftLeft_eq m 53).symm
        _ ≤ m <<< 53 * 10 ^ e.toNat := Nat.le_mul_of_pos_right _ (by positivity)
    exact mul_eq _ _ large normal (decimal_eq_mul up ▸ rounds)
  · rename_i down
    exact div_eq .positive _ _ normal (decimal_eq_div (not_le.1 down) ▸ rounds)

/-! ## The shortcut -/

theorem RoundsTo.exact (m : ℕ) (e : ℤ) : RoundsTo (m * 2 ^ e) m e := by
  have unit : (0 : ℚ) < 2 ^ e := by positivity
  constructor
  · refine .inl ?_
    rw [mul_div_cancel_right₀ _ unit.ne', sub_self]
    norm_num
  · rintro rfl - less
    push_cast at less
    exact absurd less (lt_irrefl _)

/-- A whole number below `2 ^ 53` is itself a binary64 number. -/
theorem unpack_toFloat (positive : 0 < m) (small : m < 2 ^ 53) :
    ∃ M E some, m.toUInt64.toFloat.toModel.unpack = .finite .positive M E some ∧
      (M : ℚ) * 2 ^ E = m ∧ 2 ^ 52 ≤ M := by
  have places : m.log2 ≤ 52 := Nat.le_of_lt_succ ((Nat.log2_lt positive.ne').2 small)
  obtain ⟨s, shift⟩ : ∃ s, m.log2 + s = 52 := ⟨52 - m.log2, by omega⟩
  have large : 2 ^ 52 ≤ m <<< s := by
    rw [Nat.shiftLeft_eq, ← shift, pow_add]
    exact Nat.mul_le_mul_right _ (Nat.log2_self_le positive.ne')
  have fits : m <<< s < 2 ^ 53 := by
    rw [Nat.shiftLeft_eq, show 53 = m.log2 + 1 + s by omega, pow_add]
    exact Nat.mul_lt_mul_of_pos_right Nat.lt_log2_self (by positivity)
  have normal : Normal (m <<< s) (-s) := ⟨by omega, fits, by omega, .inl large⟩
  have whole : m.toUInt64.toNat = m := by
    rw [Nat.toUInt64_eq, UInt64.toNat_ofNat']
    omega
  have log := fifty_two_le_log2 large
  have amount : (0 - max ((m.log2 : ℤ) + 0 - 52) (-1074)).toNat = s := by omega
  have rounded : Float.Model.UnpackedFloat.round Format.binary64 .positive m 0 =
      .finite .positive (m <<< s) (-s) normal.positive := by
    have decreased : decreaseExponent m 0 (max ((m.log2 : ℤ) + 0 - 52) (-1074)) = (m <<< s, -(s : ℤ)) := by
      rw [decreaseExponent, amount, zero_sub]
    rw [Float.Model.UnpackedFloat.round, targetExponent_eq, decreased]
    exact roundWithAccuracy_eq .positive (stands_exact _) (by omega) normal (RoundsTo.exact _ _)
  have read : UnpackedFloat.ofNat Format.binary64 m.toUInt64.toNat =
      .finite .positive (m <<< s) (-s) normal.positive := by
    have order : compare (m : ℤ) 0 = .gt := Int.compare_eq_gt.2 (by exact_mod_cast positive)
    rw [whole, UnpackedFloat.ofNat, UnpackedFloat.ofInt, UnpackedFloat.normalize, order]
    exact rounded
  refine ⟨m <<< s, -s, normal.positive, ?_, ?_, large⟩
  · change UnpackedFloat.unpack Format.binary64 (UnpackedFloat.pack Format.binary64
      (UnpackedFloat.ofNat Format.binary64 m.toUInt64.toNat)) = _
    rw [read]
    exact unpack_pack normal (by omega)
  · rw [Nat.shiftLeft_eq, zpow_neg, zpow_natCast]
    push_cast
    field_simp

/-- The powers of ten of the table are exact. -/
theorem powers_exact : ∀ k : Fin 23,
    (Float.exactlyRepresentablePowersOfTen[k]).isFinite = true ∧
      (Binary.ofBits (Float.exactlyRepresentablePowersOfTen[k]).toBits).negative = false ∧
      2 ^ 52 ≤ (Binary.ofBits (Float.exactlyRepresentablePowersOfTen[k]).toBits).m ∧
      (Binary.ofBits (Float.exactlyRepresentablePowersOfTen[k]).toBits).numerator =
        10 ^ k.val * (Binary.ofBits (Float.exactlyRepresentablePowersOfTen[k]).toBits).denominator := by
  decide +kernel

/-- The magnitude as a fraction. -/
theorem Binary.magnitude (x : Binary) : (x.m : ℚ) * 2 ^ x.q = x.numerator / x.denominator := by
  unfold Binary.numerator Binary.denominator
  simp only [Nat.pow_eq]
  obtain ⟨k, same | same⟩ := x.q.eq_nat_or_neg
  · simp [same]
  · simp [same, div_eq_mul_inv]

theorem unpack_power (few : k < Float.exactlyRepresentablePowersOfTen.size) :
    ∃ P F some, (Float.exactlyRepresentablePowersOfTen[k]).toModel.unpack = .finite .positive P F some ∧
      (P : ℚ) * 2 ^ F = 10 ^ k ∧ 2 ^ 52 ≤ P := by
  have entry := powers_exact ⟨k, few⟩
  simp only [Fin.getElem_fin] at entry
  generalize Float.exactlyRepresentablePowersOfTen[k] = power at *
  obtain ⟨finite, sign, large, value⟩ := entry
  have parts := Binary.unpack_toBitVec (exponent_of_isFinite finite)
  rw [Binary.unpacked, dif_neg (by omega), Binary.sign, sign] at parts
  refine ⟨_, _, _, parts, ?_, large⟩
  have divisor : ((Binary.ofBits power.toBits).denominator : ℚ) ≠ 0 := by
    rw [Binary.denominator, Nat.pow_eq]
    positivity
  rw [Binary.magnitude, value, div_eq_iff divisor]
  push_cast
  ring

/-- A decimal is read as the number that its value rounds to. -/
theorem ofScientific_of_roundsTo {down : Bool} (normal : Normal M E) (most : E ≤ 972)
    (rounds : RoundsTo (m * 10 ^ (if down then -(k : ℤ) else k)) M E) :
    Float.ofScientific m down k = .ofModel (.pack (.finite .positive M E normal.positive)) := by
  unfold Float.ofScientific
  split
  · rename_i short
    -- both the mantissa and the power are exact, so only one rounding is left
    have few : k < Float.exactlyRepresentablePowersOfTen.size := Nat.lt_succ_of_le short.2
    have positive := rounds.pos_of_natCast_mul normal
    obtain ⟨A, a, first, read, value, large⟩ := unpack_toFloat positive short.1
    obtain ⟨P, b, second, table, power, big⟩ := unpack_power few
    have product : 2 ^ 52 ≤ A * P := large.trans (Nat.le_mul_of_pos_right A second)
    cases down with
    | true =>
        have quotient : (A : ℚ) * 2 ^ a / (P * 2 ^ b) = m * 10 ^ (-(k : ℤ)) := by
          rw [value, power, zpow_neg, zpow_natCast, div_eq_mul_inv]
        have divided := div_eq .positive first second normal (quotient ▸ rounds)
        change Float.ofModel (.pack (UnpackedFloat.div Format.binary64 m.toUInt64.toFloat.toModel.unpack
          (Float.exactlyRepresentablePowersOfTen[k]).toModel.unpack)) = _
        rw [read, table, divided]
    | false =>
        have multiple : (A : ℚ) * 2 ^ a * (P * 2 ^ b) = m * 10 ^ (k : ℤ) := by
          rw [value, power, zpow_natCast]
        have multiplied := mul_eq first second product normal (multiple ▸ rounds)
        change Float.ofModel (.pack (UnpackedFloat.mul Format.binary64 m.toUInt64.toFloat.toModel.unpack
          (Float.exactlyRepresentablePowersOfTen[k]).toModel.unpack)) = _
        rw [read, table, multiplied]
  · cases down with
    | true =>
        change Float.ofModel (.pack (UnpackedFloat.ofScientific Format.binary64 m (.negOfNat k))) = _
        have read : UnpackedFloat.ofScientific Format.binary64 m (.negOfNat k) =
            .finite .positive M E normal.positive := by
          rw [Int.negOfNat_eq]
          exact ofScientific_eq normal most rounds
        rw [read]
    | false =>
        change Float.ofModel (.pack (UnpackedFloat.ofScientific Format.binary64 m k)) = _
        have read : UnpackedFloat.ofScientific Format.binary64 m k = _ := ofScientific_eq normal most rounds
        rw [read]

end

/-! ## Whole numbers -/

section

variable {n : ℕ} {x : ℚ}

theorem exists_nearest (positive : 0 ≤ x) : ∃ m, Nearest x m := by
  have low := Nat.floor_le positive
  have high := Nat.lt_floor_add_one x
  generalize ⌊x⌋₊ = m at *
  obtain less | same | more := lt_trichotomy (x - m) (1 / 2)
  · exact ⟨m, .inl (by rw [abs_of_nonneg (by linarith)]; linarith)⟩
  · obtain even | odd := Nat.mod_two_eq_zero_or_one m
    · exact ⟨m, .inr ⟨by rw [same]; norm_num, even⟩⟩
    · have half : x - (m + 1 : ℕ) = -(1 / 2) := by
        push_cast
        linarith
      exact ⟨m + 1, .inr ⟨by rw [half]; norm_num, by omega⟩⟩
  · refine ⟨m + 1, .inl ?_⟩
    push_cast
    rw [abs_of_neg (by linarith)]
    linarith

/-- Every fraction that is not too small rounds to something. -/
theorem exists_roundsTo (least : (2 : ℚ) ^ (-1022 : ℤ) ≤ x) : ∃ M E, Normal M E ∧ RoundsTo x M E := by
  have positive : 0 < x := lt_of_lt_of_le (by positivity) least
  have bottom : (2 : ℚ) ^ Int.log 2 x ≤ x := Int.zpow_log_le_self one_lt_two positive
  have top : x < (2 : ℚ) ^ (Int.log 2 x + 1) := Int.lt_zpow_succ_log_self one_lt_two x
  have place : -1022 < Int.log 2 x + 1 := (zpow_lt_zpow_iff_right₀ one_lt_two).1 (lt_of_le_of_lt least top)
  obtain ⟨e, digit⟩ : ∃ e : ℤ, Int.log 2 x = 52 + e := ⟨Int.log 2 x - 52, by ring⟩
  rw [digit] at bottom top place
  have unit : (0 : ℚ) < 2 ^ e := by positivity
  have low : (2 : ℚ) ^ 52 ≤ x / 2 ^ e := by
    rw [le_div_iff₀ unit]
    rwa [zpow_add₀ two_ne_zero] at bottom
  have high : x / 2 ^ e < 2 ^ 53 := by
    rw [div_lt_iff₀ unit]
    rwa [show 52 + e + 1 = 53 + e by ring, zpow_add₀ two_ne_zero] at top
  obtain ⟨m, near⟩ := exists_nearest (x := x / 2 ^ e) (by positivity)
  have floor : 2 ^ 52 ≤ m := by
    have bound := near.bounds.2
    have under : (2 : ℚ) ^ 52 < m + 1 := by linarith
    have whole : 2 ^ 52 < m + 1 := by exact_mod_cast under
    omega
  have ceiling : m ≤ 2 ^ 53 := by
    have bound := near.bounds.1
    have above : (m : ℚ) < 2 ^ 53 + 1 := by linarith
    have whole : m < 2 ^ 53 + 1 := by exact_mod_cast above
    omega
  obtain fits | carry := Nat.lt_or_ge m (2 ^ 53)
  · refine ⟨m, e, ⟨by omega, fits, by omega, .inl floor⟩, near, fun _ _ less => ?_⟩
    rw [le_div_iff₀ unit] at low
    linarith
  · -- Rounding carried into the next binade.
    obtain rfl : m = 2 ^ 53 := le_antisymm ceiling carry
    have bound := near.bounds.1
    have next : (2 : ℚ) ^ (e + 1) = 2 ^ e * 2 := by rw [zpow_add_one₀ two_ne_zero]
    have half : x / 2 ^ (e + 1) = x / 2 ^ e / 2 := by rw [next, div_div]
    refine ⟨2 ^ 52, e + 1, ⟨by norm_num, by norm_num, by omega, .inl le_rfl⟩, .inl ?_, fun _ _ _ => ?_⟩
    · rw [half]
      push_cast at bound ⊢
      rw [abs_of_neg (by linarith)]
      linarith
    · rw [add_sub_cancel_right, ← le_div_iff₀ unit]
      push_cast at bound
      linarith

/-- Every positive whole number rounds to something. -/
theorem exists_roundsTo_natCast (positive : 0 < n) : ∃ M E, Normal M E ∧ RoundsTo n M E := by
  have one : (1 : ℚ) ≤ n := by exact_mod_cast positive
  exact exists_roundsTo ((zpow_le_one_of_nonpos₀ one_le_two (by norm_num)).trans one)

/-- A fraction below a power of two rounds to at most that. -/
theorem RoundsTo.exponent_le {v : ℚ} {k : ℤ} {M : ℕ} {E : ℤ} (rounds : RoundsTo v M E) (normal : Normal M E)
    (small : v < 2 ^ k) (place : -1022 ≤ k) : E ≤ k - 52 := by
  by_contra large
  have full : (2 : ℚ) ^ 52 ≤ M := by exact_mod_cast normal.full.resolve_right (by omega)
  have unit : (0 : ℚ) < 2 ^ E := by positivity
  have low : 2 ^ 51 ≤ v / 2 ^ E := by linarith [rounds.1.bounds.1]
  rw [le_div_iff₀ unit, ← zpow_natCast, ← zpow_add₀ two_ne_zero] at low
  have power : (2 : ℚ) ^ k ≤ 2 ^ (((51 : ℕ) : ℤ) + E) := zpow_le_zpow_right₀ one_le_two (by omega)
  linarith

theorem RoundsTo.exponent_le_of_natCast {k M : ℕ} {E : ℤ} (rounds : RoundsTo n M E) (normal : Normal M E)
    (small : n < Nat.pow 2 k) : E ≤ k - 52 := by
  refine rounds.exponent_le normal ?_ (by omega)
  rw [Nat.pow_eq] at small
  exact_mod_cast small

/-- The number nearest to a positive whole number is positive. -/
theorem positive_of_ofInt? {x : Float} (positive : 0 < n) (near : ofInt? n = some x) : ¬ x ≤ 0 := by
  unfold ofInt? at near
  simp only [Int.natAbs_natCast, show ¬ (n : ℤ) < 0 by omega, if_false] at near
  split at near
  · cases near
  · rename_i small
    split at near
    · rename_i finite
      cases near
      obtain ⟨M, E, normal, rounds⟩ := exists_roundsTo_natCast positive
      have most := rounds.exponent_le_of_natCast normal (not_le.1 small)
      have read : Float.ofScientific n false 0 = .ofModel (.pack (.finite .positive M E normal.positive)) :=
        ofScientific_of_roundsTo normal most (by simpa using rounds)
      rw [read] at finite ⊢
      have fits := exponent_le_of_isFinite normal finite
      have zero : (0 : Float).toModel.unpack = .zero .positive := by rfl
      intro nonpositive
      replace nonpositive := of_decide_eq_true nonpositive
      change UnpackedFloat.le (UnpackedFloat.unpack Format.binary64 (UnpackedFloat.pack Format.binary64
        (.finite .positive M E normal.positive))) (0 : Float).toModel.unpack = true at nonpositive
      rw [unpack_pack normal fits, zero] at nonpositive
      cases nonpositive
    · cases near

end

end Triage.Decimal
