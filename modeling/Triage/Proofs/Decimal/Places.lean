import Triage.Decimal.Fixed
import Triage.Proofs.Time.Spans

/-!
# Rounding to decimal places

A number from zero to one is rounded to some places in two steps: to the nearest multiple of a power of ten, a half to
the even one, and then to the nearest binary64 number. Neither step turns the order around.
-/

namespace Triage.Decimal

open Float.Model Float.Model.UnpackedFloat

/-! ## Quotients -/

section

variable {v w : ℚ} {m n num den : ℕ}

theorem nearest_roundQuotient (positive : 0 < den) : Nearest (num / den) (roundQuotient num den) := by
  have unit : (0 : ℚ) < den := by exact_mod_cast positive
  obtain ⟨parts, below⟩ := fraction_eq (m := num) positive
  rw [parts, roundQuotient]
  generalize num / den = quotient
  generalize num % den = rest at below ⊢
  have share : (0 : ℚ) ≤ rest / den := by positivity
  split
  · rename_i less
    have half : 2 * ((rest : ℚ) / den) < 1 := by
      rw [← mul_div_assoc, div_lt_one unit]
      exact_mod_cast less
    refine .inl ?_
    rwa [add_sub_cancel_left, abs_of_nonneg share]
  · split
    · rename_i more
      have half : 1 < 2 * ((rest : ℚ) / den) := by
        rw [← mul_div_assoc, one_lt_div unit]
        exact_mod_cast more
      refine .inl ?_
      push_cast
      rw [add_sub_add_left_eq_sub, abs_of_neg (by linarith)]
      linarith
    · rename_i notLess notMore
      have tie : (rest : ℚ) / den = 1 / 2 := by
        have same : 2 * rest = den := by omega
        rw [div_eq_iff unit.ne', ← same]
        push_cast
        ring
      rw [tie]
      -- half way the even one of the two neighbours is taken
      split
      · rename_i even
        exact .inr ⟨by norm_num, beq_iff_eq.1 even⟩
      · rename_i odd
        have odd : quotient % 2 ≠ 0 := fun even => odd (beq_iff_eq.2 even)
        refine .inr ⟨?_, by omega⟩
        push_cast
        norm_num

/-- Of two fractions the lesser does not round to a greater whole number. -/
theorem Nearest.mono (first : Nearest v m) (second : Nearest w n) (le : v ≤ w) : m ≤ n := by
  by_contra more
  have apart : (n : ℚ) + 1 ≤ m := by exact_mod_cast not_le.1 more
  -- Only the middle between two neighbours lies below the one and above the other.
  have same : v = w := by linarith [first.bounds.1, second.bounds.2]
  subst same
  exact more (first.unique second).le

/-- A fraction rounds to no more than an even whole number just where it lies half a unit above it at most. -/
theorem Nearest.le_iff_of_even (near : Nearest v m) (even : n % 2 = 0) : m ≤ n ↔ 2 * v ≤ 2 * n + 1 := by
  constructor
  · intro le
    have bound : (m : ℚ) ≤ n := by exact_mod_cast le
    linarith [near.bounds.2]
  · intro small
    have middle : Nearest (n + 1 / 2) n := by
      refine .inr ⟨?_, even⟩
      rw [add_sub_cancel_left]
      norm_num
    exact near.mono middle (by linarith)

theorem Nearest.eq_zero_iff (near : Nearest v m) : m = 0 ↔ 2 * v ≤ 1 := by
  rw [← Nat.le_zero, near.le_iff_of_even rfl, Nat.cast_zero, mul_zero, zero_add]

end

/-! ## Binary64 numbers -/

section

variable {x y : Float} {v : ℚ} {k places : ℕ}

theorem Near.positive (near : Near v x) (some : 0 < v) : 0 < ratOf x := by
  cases near with
  | zero => exact absurd some (lt_irrefl 0)
  | nonzero sign normal most rounds =>
      rw [ratOf_pack sign normal most]
      have positive := normal.positive
      cases sign with
      | positive => exact mul_pos (by exact_mod_cast positive) (by positivity)
      | negative => exact absurd some (not_lt.2 (neg_nonpos.2 (rounds.positive normal).le))

/-- A multiple of a power of ten up to one is read as the number nearest to it. -/
theorem near_ofScientific (few : places ≤ 22) (most : k ≤ 10 ^ places) :
    Near (k / 10 ^ places) (Float.ofScientific k true places) := by
  obtain rfl | some := k.eq_zero_or_pos
  · have nothing : ∀ places : Fin 23, Float.ofScientific 0 true places = 0 := by decide +kernel
    rw [nothing ⟨places, by omega⟩, Nat.cast_zero, zero_div]
    exact .zero
  · have unit : (0 : ℚ) < 10 ^ places := by positivity
    have value : (k : ℚ) / 10 ^ places = k * 10 ^ (-(places : ℤ)) := by
      rw [zpow_neg, zpow_natCast, div_eq_mul_inv]
    have low : (2 : ℚ) ^ (-1022 : ℤ) ≤ k / 10 ^ places := by
      have one : (1 : ℚ) ≤ k := by exact_mod_cast some
      calc (2 : ℚ) ^ (-1022 : ℤ) ≤ 2 ^ (-80 : ℤ) := zpow_le_zpow_right₀ one_le_two (by norm_num)
        _ ≤ 1 / 10 ^ 22 := by norm_num
        _ ≤ 1 / 10 ^ places := one_div_le_one_div_of_le unit (pow_le_pow_right₀ (by norm_num) few)
        _ ≤ k / 10 ^ places := div_le_div_of_nonneg_right one unit.le
    have high : (k : ℚ) / 10 ^ places < 2 ^ (1 : ℤ) := by
      have whole : (k : ℚ) / 10 ^ places ≤ 1 := (div_le_one unit).2 (by exact_mod_cast most)
      exact whole.trans_lt (by norm_num)
    obtain ⟨m, e, normal, rounds⟩ := exists_roundsTo low
    have small : e ≤ 971 := (rounds.exponent_le normal high (by norm_num)).trans (by norm_num)
    have read : Float.ofScientific k true places = .ofModel (.pack (.finite .positive m e normal.positive)) :=
      ofScientific_of_roundsTo normal (by omega) (value ▸ rounds)
    rw [read]
    exact .nonzero .positive normal small rounds

/-- What a number from zero to one is rounded to: the number nearest to the nearest multiple of a power of ten. -/
theorem exists_near_roundPlaces (few : places ≤ 22) (finite : x.isFinite = true) (low : 0 ≤ ratOf x)
    (high : ratOf x ≤ 1) : ∃ k y, Nearest (ratOf x * 10 ^ places) k ∧ Near (k / 10 ^ places) y ∧
      (roundPlaces places x).isFinite = true ∧ ratOf (roundPlaces places x) = ratOf y := by
  have found : finite? x = some (.ofBits x.toBits) := if_pos finite
  have given : ratOf x = (Binary.ofBits x.toBits).toRat := by
    rw [ratOf, found]
    rfl
  rw [roundPlaces, found]
  rw [given, Binary.toRat, Rat.mkRat_eq_div, Int.cast_natCast] at low high ⊢
  have divisor : 0 < (Binary.ofBits x.toBits).denominator := Nat.two_pow_pos _
  generalize Binary.ofBits x.toBits = parts at low high divisor ⊢
  have unit : (0 : ℚ) < parts.denominator := by exact_mod_cast divisor
  cases sign : parts.negative with
  | false =>
      simp only [sign, Bool.false_eq_true, if_false] at low high ⊢
      have near : Nearest (parts.numerator / parts.denominator * 10 ^ places)
          (roundQuotient (parts.numerator * Nat.pow 10 places) parts.denominator) := by
        rw [div_mul_eq_mul_div]
        exact_mod_cast nearest_roundQuotient divisor
      have whole : Nearest (10 ^ places) (10 ^ places) := .inl (by simp)
      have most := near.mono whole (mul_le_of_le_one_left (by positivity) high)
      have read := near_ofScientific few most
      exact ⟨_, _, near, read, read.isFinite, rfl⟩
  | true =>
      simp only [sign, if_true] at low high ⊢
      -- Only a zero has a sign and is not below zero.
      have none : parts.numerator = 0 := by
        have size : (parts.numerator : ℚ) / parts.denominator ≤ 0 := neg_nonneg.1 low
        rw [div_le_iff₀ unit, zero_mul] at size
        exact Nat.le_zero.1 (by exact_mod_cast size)
      have zeros : ∀ places : Fin 23, (-Float.ofScientific 0 true places).isFinite = true ∧
          ratOf (-Float.ofScientific 0 true places) = ratOf 0 := by decide +kernel
      have quotient : roundQuotient (0 * Nat.pow 10 places) parts.denominator = 0 := by
        simp [roundQuotient, divisor]
      rw [none, quotient]
      refine ⟨0, 0, .inl (by simp), ?_, zeros ⟨places, by omega⟩⟩
      rw [Nat.cast_zero, zero_div]
      exact .zero

theorem isFinite_roundPlaces (few : places ≤ 22) (finite : x.isFinite = true) (low : 0 ≤ ratOf x)
    (high : ratOf x ≤ 1) : (roundPlaces places x).isFinite = true := by
  obtain ⟨k, y, -, -, finite', -⟩ := exists_near_roundPlaces few finite low high
  exact finite'

/-- A lesser number is not rounded to a greater one. -/
theorem ratOf_roundPlaces_mono (few : places ≤ 22) (finite : x.isFinite = true) (finite' : y.isFinite = true)
    (low : 0 ≤ ratOf x) (le : ratOf x ≤ ratOf y) (high : ratOf y ≤ 1) :
    ratOf (roundPlaces places x) ≤ ratOf (roundPlaces places y) := by
  obtain ⟨k, z, nearest, near, -, value⟩ := exists_near_roundPlaces few finite low (le.trans high)
  obtain ⟨l, w, nearest', near', -, value'⟩ := exists_near_roundPlaces few finite' (low.trans le) high
  have steps : k ≤ l := nearest.mono nearest' (mul_le_mul_of_nonneg_right le (by positivity))
  rw [value, value']
  exact near.mono near' (div_le_div_of_nonneg_right (by exact_mod_cast steps) (by positivity))

/-- Up to half a unit of the last place nothing is left. -/
theorem ratOf_roundPlaces_pos_iff (few : places ≤ 22) (finite : x.isFinite = true) (low : 0 ≤ ratOf x)
    (high : ratOf x ≤ 1) : 0 < ratOf (roundPlaces places x) ↔ 1 < 2 * (ratOf x * 10 ^ places) := by
  obtain ⟨k, z, nearest, near, -, value⟩ := exists_near_roundPlaces few finite low high
  rw [value, ← not_le, ← not_le, not_iff_not, ← nearest.eq_zero_iff]
  constructor
  · intro nothing
    by_contra some
    have unit : (0 : ℚ) < k / 10 ^ places := by positivity
    exact absurd (near.positive unit) (not_lt.2 nothing)
  · rintro rfl
    rw [Nat.cast_zero, zero_div] at near
    exact ratOf_zero ▸ near.mono .zero le_rfl

end

end Triage.Decimal
