import Triage.Decimal.Reading
import Triage.Decimal.Shortest
import Triage.Proofs.Decimal.Scientific

/-!
# Shortest decimals round to their number

A decimal that reads back lies within half a gap of its number, the ends included for even mantissas. So
the shortest decimal rounds to the number it was made of, and the number nearest to it is that number.
-/

namespace Triage.Decimal

open Float.Model

/-- The value of a decimal. -/
def Scientific.toRat (d : Scientific) : ℚ := d.digits * 10 ^ d.exponent

namespace Binary

variable {x : Binary} {d : Scientific} {count : ℕ} {top : ℤ}

/-- A power without its sign: the positive part of the exponent times, the negative part divided. -/
theorem zpow_toNat (b : ℚ) (e : ℤ) : b ^ e = b ^ e.toNat / b ^ (-e).toNat := by
  obtain ⟨k, rfl | rfl⟩ := e.eq_nat_or_neg
  · simp
  · simp

/-- The ends of the values that round to a number, in quarters of its last place. -/
theorem bounds_of_readsBack (back : x.readsBack d = true) :
    ((if x.narrowBelow then 4 * x.m - 1 else 4 * x.m - 2 : ℕ) : ℚ) * 2 ^ (x.q - 2) ≤ d.toRat ∧
      d.toRat ≤ (4 * x.m + 2 : ℕ) * 2 ^ (x.q - 2) ∧
      (x.m % 2 = 1 → ((if x.narrowBelow then 4 * x.m - 1 else 4 * x.m - 2 : ℕ) : ℚ) * 2 ^ (x.q - 2) < d.toRat ∧
        d.toRat < (4 * x.m + 2 : ℕ) * 2 ^ (x.q - 2)) := by
  have two : (0 : ℚ) < 2 ^ (-(x.q - 2)).toNat := by positivity
  have ten : (0 : ℚ) < 10 ^ (-d.exponent).toNat := by positivity
  -- both sides of the comparison are scaled by the same power
  have scaledValue : ((d.digits * Nat.pow 10 d.exponent.toNat * Nat.pow 2 (-(x.q - 2)).toNat : ℕ) : ℚ) =
      d.toRat * (2 ^ (-(x.q - 2)).toNat * 10 ^ (-d.exponent).toNat) := by
    rw [Scientific.toRat, zpow_toNat 10]
    simp only [Nat.pow_eq]
    push_cast
    field_simp
  have scaledEnd : ∀ n : ℕ, ((n * (Nat.pow 2 (x.q - 2).toNat * Nat.pow 10 (-d.exponent).toNat) : ℕ) : ℚ) =
      n * 2 ^ (x.q - 2) * (2 ^ (-(x.q - 2)).toNat * 10 ^ (-d.exponent).toNat) := by
    intro n
    rw [zpow_toNat 2]
    simp only [Nat.pow_eq]
    push_cast
    field_simp
  have scale : (0 : ℚ) < 2 ^ (-(x.q - 2)).toNat * 10 ^ (-d.exponent).toNat := by positivity
  simp only [readsBack] at back
  generalize (if x.narrowBelow then 4 * x.m - 1 else 4 * x.m - 2 : ℕ) = low at *
  split at back
  · rename_i even
    rw [Bool.and_eq_true, decide_eq_true_eq, decide_eq_true_eq, ← Nat.cast_le (α := ℚ), ← Nat.cast_le (α := ℚ),
      scaledValue, scaledEnd, scaledEnd, mul_le_mul_iff_of_pos_right scale, mul_le_mul_iff_of_pos_right scale] at back
    refine ⟨back.1, back.2, fun odd => ?_⟩
    rw [beq_iff_eq] at even
    omega
  · rw [Bool.and_eq_true, decide_eq_true_eq, decide_eq_true_eq, ← Nat.cast_lt (α := ℚ), ← Nat.cast_lt (α := ℚ),
      scaledValue, scaledEnd, scaledEnd, mul_lt_mul_iff_of_pos_right scale, mul_lt_mul_iff_of_pos_right scale] at back
    exact ⟨back.1.le, back.2.le, fun _ => back⟩

theorem two_zpow_sub_two (e : ℤ) : (2 : ℚ) ^ (e - 2) = 2 ^ e / 4 := by
  rw [zpow_sub₀ two_ne_zero]
  norm_num

/-- The mantissa is nearest: only an even one reads back from the ends of its interval. -/
theorem nearest_of_readsBack (positive : 0 < x.m) (back : x.readsBack d = true) :
    Nearest (d.toRat / 2 ^ x.q) x.m := by
  obtain ⟨low, high, odd⟩ := bounds_of_readsBack back
  have unit : (0 : ℚ) < 2 ^ x.q := by positivity
  have least : (4 * x.m - 2 : ℚ) ≤ ((if x.narrowBelow then 4 * x.m - 1 else 4 * x.m - 2 : ℕ) : ℚ) := by
    split
    · rw [Nat.cast_sub (by omega)]
      push_cast
      linarith
    · rw [Nat.cast_sub (by omega)]
      push_cast
      linarith
  rw [two_zpow_sub_two] at low high odd
  obtain even | uneven := Nat.mod_two_eq_zero_or_one x.m
  · have left : x.m - 1 / 2 ≤ d.toRat / 2 ^ x.q := by
      rw [le_div_iff₀ unit]
      nlinarith
    have right : d.toRat / 2 ^ x.q ≤ x.m + 1 / 2 := by
      rw [div_le_iff₀ unit]
      push_cast at high
      linarith
    have close : |d.toRat / 2 ^ x.q - x.m| ≤ 1 / 2 := abs_le.2 ⟨by linarith, by linarith⟩
    obtain inside | tie := close.lt_or_eq
    · exact .inl (by linarith)
    · exact .inr ⟨by linarith, even⟩
  · obtain ⟨above, below⟩ := odd uneven
    have left : x.m - 1 / 2 < d.toRat / 2 ^ x.q := by
      rw [lt_div_iff₀ unit]
      nlinarith
    have right : d.toRat / 2 ^ x.q < x.m + 1 / 2 := by
      rw [div_lt_iff₀ unit]
      push_cast at below
      linarith
    have close : |d.toRat / 2 ^ x.q - x.m| < 1 / 2 := abs_lt.2 ⟨by linarith, by linarith⟩
    exact .inl (by linarith)

/-- A decimal that reads back rounds to the number. -/
theorem roundsTo_of_readsBack (positive : 0 < x.m) (narrow : x.narrowBelow = true ↔ x.m = 2 ^ 52 ∧ -1074 < x.q)
    (back : x.readsBack d = true) : RoundsTo d.toRat x.m x.q := by
  refine ⟨nearest_of_readsBack positive back, fun power larger _ => ?_⟩
  obtain ⟨low, -, -⟩ := bounds_of_readsBack back
  rw [narrow.2 ⟨power, larger⟩, if_pos rfl, power, two_zpow_sub_two] at low
  rw [zpow_sub_one₀ two_ne_zero]
  push_cast at low
  linarith

/-! ## The search -/

theorem roundQuotient_cases (num den : ℕ) :
    roundQuotient num den = num / den ∨ roundQuotient num den = num / den + 1 := by
  simp only [roundQuotient]
  split
  · exact .inl rfl
  · split
    · exact .inr rfl
    · split
      · exact .inl rfl
      · exact .inr rfl

theorem readsBack_of_onGrid? (found : x.onGrid? top count = some d) : x.readsBack d = true := by
  simp only [onGrid?] at found
  split at found
  · rename_i below above
    cases found
    obtain same | same := roundQuotient_cases (scaled x.numerator x.denominator (top - count)).1
      (scaled x.numerator x.denominator (top - count)).2
    · rw [same]
      exact below
    · rw [same]
      exact above
  · rename_i below _
    cases found
    exact below
  · rename_i _ above
    cases found
    exact above
  · cases found

/-- The exact value as a decimal. -/
theorem exact_toRat (x : Binary) :
    Scientific.toRat ⟨x.numerator * Nat.pow 5 (-x.q).toNat, min x.q 0⟩ = x.m * 2 ^ x.q := by
  simp only [Scientific.toRat, numerator, Nat.pow_eq]
  obtain ⟨k, same | same⟩ := x.q.eq_nat_or_neg
  · rw [same, min_eq_right (by omega)]
    simp
  · rw [same, min_eq_left (by omega)]
    have ten : (10 : ℚ) ^ k = 2 ^ k * 5 ^ k := by rw [← mul_pow]; norm_num
    simp only [neg_neg, Int.toNat_natCast, zpow_neg, zpow_natCast, ten]
    push_cast
    simp only [Int.toNat_neg_natCast, pow_zero, mul_one]
    field_simp

/-- The shortest decimal rounds to its number. -/
theorem roundsTo_shortest (positive : 0 < x.m)
    (narrow : x.narrowBelow = true ↔ x.m = 2 ^ 52 ∧ -1074 < x.q) : RoundsTo x.shortest.toRat x.m x.q := by
  rw [shortest, if_neg positive.ne']
  simp only
  split
  · rename_i d found
    obtain ⟨count, -, here⟩ := List.exists_of_findSome?_eq_some found
    exact roundsTo_of_readsBack positive narrow (readsBack_of_onGrid? here)
  · rw [exact_toRat]
    exact .exact x.m x.q

end Binary

/-! ## The nearest number -/

section

variable {n k M : ℕ} {e E : ℤ}

theorem lt_ten_pow_digitCount (n : ℕ) : n < 10 ^ digitCount n := by
  rw [digitCount]
  split
  · rename_i none
    rw [none]
    exact Nat.one_pos
  · exact (Nat.length_repr_le_iff Nat.length_repr_pos).1 le_rfl

theorem ten_pow_digitCount_le (positive : 0 < n) : 10 ^ (digitCount n - 1) ≤ n := by
  rw [digitCount, if_neg positive.ne']
  by_contra less
  rw [not_le] at less
  obtain one | more := Nat.eq_zero_or_pos ((Nat.repr n).length - 1)
  · rw [one] at less
    omega
  · have short := (Nat.length_repr_le_iff more).2 less
    have some := Nat.length_repr_pos (n := n)
    omega

/-- The bounds of decimals lie outside those of binary64 numbers. -/
theorem two_pow_lt_ten_pow : (2 : ℚ) ^ (1200 : ℕ) < 10 ^ (400 : ℕ) := by
  rw [show 1200 = 48 * 25 by rfl, show 400 = 16 * 25 by rfl, pow_mul, pow_mul]
  exact pow_lt_pow_left₀ (by norm_num) (by norm_num) (by norm_num)

/-- A decimal with too many digits before its point is larger than all numbers. -/
theorem two_pow_le_of_digitCount (positive : 0 < n) (huge : 400 < e + digitCount n) :
    (2 : ℚ) ^ (1024 : ℤ) ≤ n * 10 ^ e := by
  have counted : 1 ≤ digitCount n := by
    rw [digitCount, if_neg positive.ne']
    exact Nat.length_repr_pos
  have first : (10 : ℚ) ^ ((digitCount n : ℤ) - 1) ≤ n := by
    rw [show (digitCount n : ℤ) - 1 = ((digitCount n - 1 : ℕ) : ℤ) by omega, zpow_natCast]
    exact_mod_cast ten_pow_digitCount_le positive
  calc (2 : ℚ) ^ (1024 : ℤ) ≤ 2 ^ ((1200 : ℕ) : ℤ) := zpow_le_zpow_right₀ one_le_two (by omega)
    _ ≤ 10 ^ ((400 : ℕ) : ℤ) := by
      rw [zpow_natCast, zpow_natCast]
      exact two_pow_lt_ten_pow.le
    _ ≤ 10 ^ ((digitCount n : ℤ) - 1 + e) := zpow_le_zpow_right₀ (by norm_num) (by omega)
    _ = 10 ^ ((digitCount n : ℤ) - 1) * 10 ^ e := zpow_add₀ (by norm_num) _ _
    _ ≤ n * 10 ^ e := mul_le_mul_of_nonneg_right first (by positivity)

/-- A decimal with too many zeros behind its point is smaller than half of the least number. -/
theorem lt_two_pow_of_digitCount (tiny : e + digitCount n < -400) : n * (10 : ℚ) ^ e < 2 ^ (-1075 : ℤ) := by
  have size : (n : ℚ) ≤ 10 ^ (digitCount n : ℤ) := by exact_mod_cast (lt_ten_pow_digitCount n).le
  calc (n : ℚ) * 10 ^ e ≤ 10 ^ (digitCount n : ℤ) * 10 ^ e := mul_le_mul_of_nonneg_right size (by positivity)
    _ = 10 ^ ((digitCount n : ℤ) + e) := (zpow_add₀ (by norm_num) _ _).symm
    _ ≤ 10 ^ (-((400 : ℕ) : ℤ)) := zpow_le_zpow_right₀ (by norm_num) (by omega)
    _ < 2 ^ (-((1200 : ℕ) : ℤ)) := by
      rw [zpow_neg, zpow_neg, zpow_natCast, zpow_natCast]
      exact inv_strictAnti₀ (by positivity) two_pow_lt_ten_pow
    _ ≤ 2 ^ (-1075 : ℤ) := zpow_le_zpow_right₀ one_le_two (by omega)

/-- A decimal that rounds to a number is read as that number. -/
theorem nearest_of_roundsTo (normal : Normal M E) (most : E ≤ 971) (rounds : RoundsTo (n * 10 ^ e) M E) :
    nearest n e = .ofModel (.pack (.finite .positive M E normal.positive)) := by
  have low := rounds.least_le normal
  have high := rounds.lt_two_pow normal
  have positive := rounds.pos_of_natCast_mul normal
  have notHuge : ¬ e + digitCount n > 400 := by
    intro huge
    have power := two_pow_le_of_digitCount positive huge
    have edge : (2 : ℚ) ^ (53 + E) ≤ 2 ^ (1024 : ℤ) := zpow_le_zpow_right₀ one_le_two (by omega)
    linarith
  have notTiny : ¬ e + digitCount n < -400 := by
    intro tiny
    have power := lt_two_pow_of_digitCount tiny
    linarith
  have sign : (if decide (e < 0) = true then -(e.natAbs : ℤ) else e.natAbs) = e := by
    split
    · rename_i down
      rw [decide_eq_true_eq] at down
      omega
    · rename_i up
      rw [decide_eq_true_eq] at up
      omega
  rw [nearest, if_neg positive.ne']
  simp only
  rw [if_neg notHuge, if_neg notTiny]
  refine ofScientific_of_roundsTo normal (by omega) ?_
  rw [sign]
  exact rounds

theorem neg_pack (normal : Normal M E) (most : E ≤ 971) :
    -Float.ofModel (.pack (.finite .positive M E normal.positive)) =
      .ofModel (.pack (.finite .negative M E normal.positive)) := by
  change Float.ofModel (.pack (UnpackedFloat.neg (UnpackedFloat.unpack Format.binary64
    (UnpackedFloat.pack Format.binary64 (.finite .positive M E normal.positive))))) = _
  rw [unpack_pack normal most]
  rfl

/-- A finite number is neither infinite nor no number at all. -/
theorem ordinary_of_isFinite {x : Float} (finite : x.isFinite = true) : x.isNaN = false ∧ x.isInf = false := by
  change x.toModel.unpack.isFinite = true at finite
  change x.toModel.unpack.isNaN = false ∧ x.toModel.unpack.isInf = false
  generalize x.toModel.unpack = u at *
  cases u with
  | zero | finite => exact ⟨rfl, rfl⟩
  | notANumber | infinity => cases finite

/-- A finite number is the one nearest to its shortest decimal. -/
theorem eq_nearest_of_finite? {x : Float} {parts : Binary} (found : finite? x = some parts)
    (value : (n : ℚ) * 10 ^ e = parts.shortest.toRat) :
    x = if parts.negative then -nearest n e else nearest n e := by
  have packed := eq_pack_of_finite? found
  obtain none | positive := Nat.eq_zero_or_pos parts.m
  · have zero : n = 0 := by
      rw [Binary.shortest, if_pos none] at value
      simpa [Scientific.toRat, zpow_ne_zero] using value
    have nothing : nearest n e = 0 := by rw [nearest, if_pos zero]
    rw [packed, nothing, Binary.unpacked, dif_pos none, Binary.sign]
    cases parts.negative <;> rfl
  · obtain ⟨normal, most, narrow⟩ := normal_of_finite? found positive
    have rounds := Binary.roundsTo_shortest positive narrow
    rw [← value] at rounds
    rw [packed, nearest_of_roundsTo normal most rounds, Binary.unpacked, dif_neg positive.ne', Binary.sign]
    cases parts.negative with
    | false => rfl
    | true => exact (neg_pack normal most).symm

theorem digits_shortest_pos {x : Float} {parts : Binary} (found : finite? x = some parts) (positive : 0 < parts.m) :
    0 < parts.shortest.digits := by
  obtain ⟨normal, -, narrow⟩ := normal_of_finite? found positive
  have low := (Binary.roundsTo_shortest positive narrow).least_le normal
  have least : (0 : ℚ) < 2 ^ (-1075 : ℤ) := by positivity
  by_contra none
  have zero : parts.shortest.digits = 0 := by omega
  rw [Scientific.toRat, zero, Nat.cast_zero, zero_mul] at low
  linarith

end

end Triage.Decimal
