import Mathlib

/-!
# Rounding to binary64

The nearest binary64 number to a positive fraction. A mantissa with a round bit and a sticky bit stands
for every fraction that it tells apart from its half units; shifting keeps what it stands for, and
rounding it gives the nearest whole number, a half to the even one.
-/

namespace Triage.Decimal

open Float.Model Float.Model.UnpackedFloat

/-- The fractions for which a mantissa with its two residual bits stands. -/
def Stands (em : ExtendedMantissa) (x : ℚ) : Prop :=
  match em.roundBit, em.stickyBit with
  | false, false => x = em.mantissa
  | false, true => em.mantissa < x ∧ x < em.mantissa + 1 / 2
  | true, false => x = em.mantissa + 1 / 2
  | true, true => em.mantissa + 1 / 2 < x ∧ x < em.mantissa + 1

/-- A whole number nearest to a fraction, the even one of two. -/
def Nearest (x : ℚ) (m : ℕ) : Prop :=
  2 * |x - m| < 1 ∨ 2 * |x - m| = 1 ∧ m % 2 = 0

namespace Stands

variable {em : ExtendedMantissa} {x : ℚ}

theorem floor (stands : Stands em x) : em.mantissa ≤ x ∧ x < em.mantissa + 1 := by
  obtain ⟨m, r, s⟩ := em
  cases r <;> cases s <;> simp only [Stands] at stands ⊢
  · constructor <;> linarith
  · constructor <;> linarith [stands.1, stands.2]
  · constructor <;> linarith
  · constructor <;> linarith [stands.1, stands.2]

theorem shiftRightOne (stands : Stands em x) : Stands em.shiftRightOne (x / 2) := by
  obtain ⟨m, r, s⟩ := em
  obtain ⟨half, rfl | rfl⟩ := m.even_or_odd'
  · have shifted : (ExtendedMantissa.mk (2 * half) r s).shiftRightOne = ⟨half, false, r || s⟩ := by
      simp [ExtendedMantissa.shiftRightOne]
    rw [shifted]
    cases r <;> cases s <;> simp only [Stands, Bool.or_false, Bool.or_true] at stands ⊢ <;>
      push_cast at stands
    · linarith
    · constructor <;> linarith [stands.1, stands.2]
    · constructor <;> linarith
    · constructor <;> linarith [stands.1, stands.2]
  · have shifted : (ExtendedMantissa.mk (2 * half + 1) r s).shiftRightOne = ⟨half, true, r || s⟩ := by
      have down : (2 * half + 1) / 2 = half := by omega
      simp [ExtendedMantissa.shiftRightOne, down]
    rw [shifted]
    cases r <;> cases s <;> simp only [Stands, Bool.or_false, Bool.or_true] at stands ⊢ <;>
      push_cast at stands
    · linarith
    · constructor <;> linarith [stands.1, stands.2]
    · constructor <;> linarith
    · constructor <;> linarith [stands.1, stands.2]

/-- Shifting divides by a power of two and loses nothing. -/
theorem shiftRight (stands : Stands em x) (n : ℕ) : Stands (em >>> n) (x / 2 ^ n) := by
  induction n with
  | zero => simpa [HShiftRight.hShiftRight, Nat.repeat] using stands
  | succ n ih =>
      have once := ih.shiftRightOne
      rwa [div_div, ← pow_succ] at once

/-- The rounded mantissa is nearest. -/
theorem nearest (stands : Stands em x) : Nearest x em.roundedMantissa := by
  obtain ⟨m, r, s⟩ := em
  cases r <;> cases s <;> simp only [Stands] at stands
  · refine .inl ?_
    simp [ExtendedMantissa.roundedMantissa, ExtendedMantissa.accuracy, Accuracy.roundToNearestEven, stands]
  · refine .inl ?_
    simp only [ExtendedMantissa.roundedMantissa, ExtendedMantissa.accuracy, Accuracy.roundToNearestEven]
    rw [abs_of_pos (by linarith [stands.1])]
    linarith [stands.2]
  · refine .inr ?_
    simp only [ExtendedMantissa.roundedMantissa, ExtendedMantissa.accuracy, Accuracy.roundToNearestEven]
    obtain even | odd := Nat.mod_two_eq_zero_or_one m
    · rw [even, add_zero, stands]
      exact ⟨by norm_num, even⟩
    · rw [odd, stands]
      exact ⟨by push_cast; norm_num, by omega⟩
  · refine .inl ?_
    simp only [ExtendedMantissa.roundedMantissa, ExtendedMantissa.accuracy, Accuracy.roundToNearestEven]
    rw [abs_of_neg (by push_cast; linarith [stands.2])]
    push_cast
    linarith [stands.1]

end Stands

namespace Nearest

variable {x : ℚ} {m n : ℕ}

theorem bounds (near : Nearest x m) : 2 * m - 1 ≤ 2 * x ∧ 2 * x ≤ 2 * m + 1 := by
  have close : 2 * |x - m| ≤ 1 := by
    obtain inside | ⟨tie, -⟩ := near
    · exact inside.le
    · exact tie.le
  obtain ⟨low, high⟩ := abs_le.1 (show |x - m| ≤ 1 / 2 by linarith)
  constructor <;> linarith

/-- Two neighbours are not both nearest, since one of them is odd. -/
theorem not_succ (first : Nearest x m) (second : Nearest x (m + 1)) : False := by
  have low := first.bounds.2
  have high := second.bounds.1
  push_cast at high
  have middle : x = m + 1 / 2 := by linarith
  subst middle
  have even : m % 2 = 0 := by
    obtain inside | ⟨-, even⟩ := first
    · norm_num at inside
    · exact even
  have odd : (m + 1) % 2 = 0 := by
    obtain inside | ⟨-, odd⟩ := second
    · push_cast at inside
      norm_num at inside
    · exact odd
  omega

theorem unique (first : Nearest x m) (second : Nearest x n) : m = n := by
  have low : (m : ℚ) < n + 2 := by linarith [first.bounds.1, second.bounds.2]
  have high : (n : ℚ) < m + 2 := by linarith [first.bounds.2, second.bounds.1]
  have below : m < n + 2 := by exact_mod_cast low
  have above : n < m + 2 := by exact_mod_cast high
  obtain same | rfl | rfl : m = n ∨ n = m + 1 ∨ m = n + 1 := by omega
  · exact same
  · exact (first.not_succ second).elim
  · exact (second.not_succ first).elim

end Nearest

/-! ## Binary64 numbers -/

/-- A mantissa and an exponent as binary64 numbers have them, the exponent not bounded above. -/
structure Normal (m : ℕ) (e : ℤ) : Prop where
  positive : 0 < m
  small : m < 2 ^ 53
  least : -1074 ≤ e
  full : 2 ^ 52 ≤ m ∨ e = -1074

/-- The fraction rounds to `m * 2 ^ e`. Below a power of two the gap is half as wide. -/
def RoundsTo (v : ℚ) (m : ℕ) (e : ℤ) : Prop :=
  Nearest (v / 2 ^ e) m ∧
    (m = 2 ^ 52 → -1074 < e → v < 2 ^ 52 * 2 ^ e → (2 ^ 53 - 1 / 2) * 2 ^ (e - 1) ≤ v)

section

variable {m : ℕ} {e : ℤ} {acc : Accuracy} {x v : ℚ}

theorem targetExponent_eq (m : ℕ) (e : ℤ) :
    Format.binary64.targetExponent (totalExponent m e) = max ((m.log2 : ℤ) + e - 52) (-1074) := by
  simp only [Format.targetExponent, totalExponent, Format.mantissaBits, Format.minExponent]
  norm_num
  omega

theorem shiftToTargetExponent_eq {t : ℤ} (target : max ((m.log2 : ℤ) + e - 52) (-1074) = t) (below : e ≤ t) :
    shiftToTargetExponent Format.binary64 m e acc =
      (ExtendedMantissa.ofMantissaAndAccuracy m acc >>> (t - e).toNat, t) := by
  have up : e + ((t - e).toNat : ℤ) = t := by omega
  simp only [shiftToTargetExponent, shiftToExponent, targetExponent_eq, target, up]

/-- A mantissa that fits stays as it is. -/
theorem shiftToTargetExponent_of_fits (small : m < 2 ^ 53) (least : -1074 ≤ e) :
    shiftToTargetExponent Format.binary64 m e .exact = (⟨m, false, false⟩, e) := by
  have places : m.log2 ≤ 52 := by
    obtain rfl | positive := Nat.eq_zero_or_pos m
    · simp
    · exact Nat.le_of_lt_succ ((Nat.log2_lt positive.ne').2 small)
  have still : (max ((m.log2 : ℤ) + e - 52) (-1074) - e).toNat = 0 := by omega
  simp only [shiftToTargetExponent, shiftToExponent, targetExponent_eq, still]
  simp [HShiftRight.hShiftRight, Nat.repeat, ExtendedMantissa.ofMantissaAndAccuracy]

/-- A mantissa that rounding brought to `2 ^ 53` is halved. -/
theorem shiftToTargetExponent_of_carry (least : -1074 ≤ e) :
    shiftToTargetExponent Format.binary64 (2 ^ 53) e .exact = (⟨2 ^ 52, false, false⟩, e + 1) := by
  have target : max (((2 ^ 53 : ℕ).log2 : ℤ) + e - 52) (-1074) = e + 1 := by
    rw [Nat.log2_two_pow]
    omega
  rw [shiftToTargetExponent_eq target (by omega), show (e + 1 - e).toNat = 1 by omega]
  rfl

theorem two_pow_log2_le (positive : 0 < m) (low : (m : ℚ) ≤ x) : (2 : ℚ) ^ ((m.log2 : ℤ) + e) ≤ x * 2 ^ e := by
  have down : (2 : ℚ) ^ (m.log2 : ℤ) ≤ m := by
    exact_mod_cast Nat.log2_self_le positive.ne'
  rw [zpow_add₀ two_ne_zero]
  exact mul_le_mul_of_nonneg_right (down.trans low) (by positivity)

theorem lt_two_pow_log2 (high : x < m + 1) : x * 2 ^ e < (2 : ℚ) ^ ((m.log2 : ℤ) + 1 + e) := by
  have up : (m : ℚ) + 1 ≤ 2 ^ ((m.log2 : ℤ) + 1) := by
    exact_mod_cast Nat.succ_le_of_lt (Nat.lt_log2_self (n := m))
  rw [zpow_add₀ two_ne_zero ((m.log2 : ℤ) + 1)]
  exact mul_lt_mul_of_pos_right (lt_of_lt_of_le high up) (by positivity)

/-- The exponent of the first digit is that of the binade. -/
theorem log2_of_binade {t : ℤ} (positive : 0 < m) (floor : (m : ℚ) ≤ x ∧ x < m + 1)
    (low : (2 : ℚ) ^ t ≤ x * 2 ^ e) (high : x * 2 ^ e < 2 ^ (t + 1)) : (m.log2 : ℤ) + e = t := by
  have below := lt_of_le_of_lt (two_pow_log2_le positive floor.1) high
  have above := lt_of_le_of_lt low (lt_two_pow_log2 floor.2)
  have one := (zpow_lt_zpow_iff_right₀ one_lt_two).1 below
  have two := (zpow_lt_zpow_iff_right₀ one_lt_two).1 above
  omega

/-- A fraction of at least the least number has a digit before the last place. -/
theorem positive_of_least_le (below : e ≤ max ((m.log2 : ℤ) + e - 52) (-1074)) (high : x < m + 1)
    (least : (2 : ℚ) ^ (-1074 : ℤ) ≤ x * 2 ^ e) : 0 < m := by
  by_contra none
  obtain rfl : m = 0 := by omega
  rw [Nat.log2_zero] at below
  have tiny : (2 : ℚ) ^ e ≤ 2 ^ (-1074 : ℤ) := zpow_le_zpow_right₀ one_le_two (by omega)
  have fine : (0 : ℚ) < 2 ^ e := by positivity
  have under : x * 2 ^ e < 1 * 2 ^ e := by
    refine mul_lt_mul_of_pos_right ?_ fine
    simpa using high
  linarith

/-- The mantissa after the bulk of the shifting. -/
theorem roundedMantissa_eq {t : ℤ} {r : ℕ} (stands : Stands (.ofMantissaAndAccuracy m acc) x) (below : e ≤ t)
    (near : Nearest (x * 2 ^ e / 2 ^ t) r) :
    (ExtendedMantissa.ofMantissaAndAccuracy m acc >>> (t - e).toNat).roundedMantissa = r := by
  refine (stands.shiftRight (t - e).toNat).nearest.unique ?_
  have scale : x * 2 ^ e / 2 ^ t = x / 2 ^ (t - e).toNat := by
    have power : (2 : ℚ) ^ (t - e).toNat = 2 ^ t / 2 ^ e := by
      rw [← zpow_natCast, Int.toNat_of_nonneg (by omega), zpow_sub₀ two_ne_zero]
    rw [power]
    field_simp
  rwa [scale] at near

theorem roundWithAccuracy_of_fits {t : ℤ} {r : ℕ} (sign : Sign)
    (stands : Stands (.ofMantissaAndAccuracy m acc) x) (below : e ≤ t)
    (target : max ((m.log2 : ℤ) + e - 52) (-1074) = t) (near : Nearest (x * 2 ^ e / 2 ^ t) r)
    (positive : 0 < r) (small : r < 2 ^ 53) :
    roundWithAccuracy Format.binary64 sign m e acc = .finite sign r t positive := by
  simp only [roundWithAccuracy, shiftToTargetExponent_eq target below, roundedMantissa_eq stands below near,
    shiftToTargetExponent_of_fits small (show -1074 ≤ t by omega), positive.ne', dite_false]

theorem roundWithAccuracy_of_carry {t : ℤ} (sign : Sign)
    (stands : Stands (.ofMantissaAndAccuracy m acc) x) (below : e ≤ t)
    (target : max ((m.log2 : ℤ) + e - 52) (-1074) = t) (near : Nearest (x * 2 ^ e / 2 ^ t) (2 ^ 53)) :
    roundWithAccuracy Format.binary64 sign m e acc = .finite sign (2 ^ 52) (t + 1) (by decide) := by
  simp only [roundWithAccuracy, shiftToTargetExponent_eq target below, roundedMantissa_eq stands below near,
    shiftToTargetExponent_of_carry (show -1074 ≤ t by omega)]
  rfl

/-- Just below a power of two the nearest whole number at the finer exponent is the next power. -/
theorem nearest_of_carry {E : ℤ} (low : (2 ^ 53 - 1 / 2) * 2 ^ (E - 1) ≤ v) (high : v < 2 ^ (52 + E)) :
    Nearest (v / 2 ^ (E - 1)) (2 ^ 53) := by
  have unit : (0 : ℚ) < 2 ^ (E - 1) := by positivity
  have above : (2 : ℚ) ^ 53 - 1 / 2 ≤ v / 2 ^ (E - 1) := (le_div_iff₀ unit).2 low
  have below : v / 2 ^ (E - 1) < 2 ^ 53 := by
    rw [div_lt_iff₀ unit]
    rwa [show 52 + E = 53 + (E - 1) by ring, zpow_add₀ two_ne_zero] at high
  have size : |v / 2 ^ (E - 1) - ((2 ^ 53 : ℕ) : ℚ)| = 2 ^ 53 - v / 2 ^ (E - 1) := by
    rw [abs_of_neg (by push_cast; linarith)]
    push_cast
    ring
  rw [Nearest, size]
  obtain tie | inside := above.eq_or_lt
  · exact .inr ⟨by rw [← tie]; norm_num, by norm_num⟩
  · exact .inl (by linarith)

theorem floor_ofMantissaAndAccuracy (stands : Stands (.ofMantissaAndAccuracy m acc) x) :
    (m : ℚ) ≤ x ∧ x < m + 1 := by
  have same : (ExtendedMantissa.ofMantissaAndAccuracy m acc).mantissa = m := by
    cases acc with
    | exact => rfl
    | inexact side => cases side <;> rfl
  exact same ▸ stands.floor

theorem Nearest.lt_top {M : ℕ} {E : ℤ} (near : Nearest (v / 2 ^ E) M) (small : M < 2 ^ 53) :
    v < 2 ^ (53 + E) := by
  have unit : (0 : ℚ) < 2 ^ E := by positivity
  have few : (M : ℚ) + 1 ≤ 2 ^ 53 := by exact_mod_cast small
  rw [zpow_add₀ two_ne_zero, ← div_lt_iff₀ unit]
  have bound := near.bounds.2
  norm_num at few ⊢
  linarith

/-- The fraction lies in the binade of the number. -/
theorem roundWithAccuracy_of_binade {M : ℕ} {E : ℤ} (sign : Sign) (stands : Stands (.ofMantissaAndAccuracy m acc) x)
    (below : e ≤ max ((m.log2 : ℤ) + e - 52) (-1074)) (normal : Normal M E) (near : Nearest (x * 2 ^ e / 2 ^ E) M)
    (top : (2 : ℚ) ^ (52 + E) ≤ x * 2 ^ e) :
    roundWithAccuracy Format.binary64 sign m e acc = .finite sign M E normal.positive := by
  have floor := floor_ofMantissaAndAccuracy stands
  have least := normal.least
  have tiny : (2 : ℚ) ^ (-1074 : ℤ) ≤ 2 ^ (52 + E) := zpow_le_zpow_right₀ one_le_two (by omega)
  have digit : 0 < m := positive_of_least_le below floor.2 (tiny.trans top)
  have upper := near.lt_top normal.small
  have place : (m.log2 : ℤ) + e = 52 + E :=
    log2_of_binade digit floor top (by rwa [show 52 + E + 1 = 53 + E by ring])
  exact roundWithAccuracy_of_fits sign stands (by omega) (by omega) near normal.positive normal.small

/-- The fraction lies below the first binade, where the exponent stays the least. -/
theorem roundWithAccuracy_of_least {M : ℕ} (sign : Sign) (stands : Stands (.ofMantissaAndAccuracy m acc) x)
    (below : e ≤ max ((m.log2 : ℤ) + e - 52) (-1074)) (normal : Normal M (-1074))
    (near : Nearest (x * 2 ^ e / 2 ^ (-1074 : ℤ)) M) (low : x * 2 ^ e < (2 : ℚ) ^ (52 + -1074 : ℤ)) :
    roundWithAccuracy Format.binary64 sign m e acc = .finite sign M (-1074) normal.positive := by
  have place : (m.log2 : ℤ) + e - 52 ≤ -1074 := by
    obtain rfl | digit := Nat.eq_zero_or_pos m
    · rw [Nat.log2_zero] at below ⊢
      omega
    · have under := lt_of_le_of_lt (two_pow_log2_le digit (floor_ofMantissaAndAccuracy stands).1) low
      have smaller := (zpow_lt_zpow_iff_right₀ one_lt_two).1 under
      omega
  exact roundWithAccuracy_of_fits sign stands (by omega) (by omega) near normal.positive normal.small

/-- Below the binade of the number it rounds to, a fraction is carried up to the first number of the binade. -/
theorem Nearest.eq_two_pow {M : ℕ} {E : ℤ} (near : Nearest (v / 2 ^ E) M) (full : 2 ^ 52 ≤ M)
    (low : v < 2 ^ (52 + E)) : M = 2 ^ 52 := by
  have unit : (0 : ℚ) < 2 ^ E := by positivity
  have under : v / 2 ^ E < 2 ^ 52 := by
    rw [div_lt_iff₀ unit]
    rwa [zpow_add₀ two_ne_zero] at low
  have bound := near.bounds.1
  have capped : (M : ℚ) < 2 ^ 52 + 1 := by linarith
  have least : M < 2 ^ 52 + 1 := by exact_mod_cast capped
  omega

theorem roundWithAccuracy_of_below {E : ℤ} (sign : Sign) (stands : Stands (.ofMantissaAndAccuracy m acc) x)
    (below : e ≤ max ((m.log2 : ℤ) + e - 52) (-1074)) (least : -1074 < E)
    (low : (2 ^ 53 - 1 / 2) * 2 ^ (E - 1) ≤ x * 2 ^ e) (high : x * 2 ^ e < (2 : ℚ) ^ (52 + E)) :
    roundWithAccuracy Format.binary64 sign m e acc = .finite sign (2 ^ 52) E (by decide) := by
  have floor := floor_ofMantissaAndAccuracy stands
  have edge : (2 : ℚ) ^ (51 + E) ≤ x * 2 ^ e := by
    refine le_trans ?_ low
    rw [show 51 + E = 52 + (E - 1) by ring, zpow_add₀ two_ne_zero]
    have finer : (0 : ℚ) < 2 ^ (E - 1) := by positivity
    refine mul_le_mul_of_nonneg_right ?_ finer.le
    norm_num
  have tiny : (2 : ℚ) ^ (-1074 : ℤ) ≤ 2 ^ (51 + E) := zpow_le_zpow_right₀ one_le_two (by omega)
  have digit : 0 < m := positive_of_least_le below floor.2 (tiny.trans edge)
  have place : (m.log2 : ℤ) + e = 51 + E :=
    log2_of_binade digit floor edge (by rwa [show 51 + E + 1 = 52 + E by ring])
  have carried := roundWithAccuracy_of_carry sign stands (by omega) (t := E - 1) (by omega)
    (nearest_of_carry low high)
  rw [carried]
  congr 1
  ring

/-- What a fraction rounds to is what the rounding finds. -/
theorem roundWithAccuracy_eq {M : ℕ} {E : ℤ} (sign : Sign)
    (stands : Stands (.ofMantissaAndAccuracy m acc) x) (below : e ≤ max ((m.log2 : ℤ) + e - 52) (-1074))
    (normal : Normal M E) (rounds : RoundsTo (x * 2 ^ e) M E) :
    roundWithAccuracy Format.binary64 sign m e acc = .finite sign M E normal.positive := by
  obtain ⟨near, half⟩ := rounds
  by_cases top : (2 : ℚ) ^ (52 + E) ≤ x * 2 ^ e
  · exact roundWithAccuracy_of_binade sign stands below normal near top
  · rw [not_le] at top
    obtain full | rfl := normal.full
    · obtain rfl | above := normal.least.eq_or_lt
      · exact roundWithAccuracy_of_least sign stands below normal near top
      · obtain rfl := near.eq_two_pow full top
        have low := half rfl above (by rwa [zpow_add₀ two_ne_zero] at top)
        exact roundWithAccuracy_of_below sign stands below above low top
    · exact roundWithAccuracy_of_least sign stands below normal near top

end

end Triage.Decimal
