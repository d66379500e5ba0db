import Triage.Proofs.Decimal.Order
import Triage.Time.Moment

/-!
# Spans of time

A span of microseconds is reckoned in days by two quotients, each of which is rounded. A longer span still
has at least as many days, since neither rounding turns the order around.
-/

namespace Triage

namespace Decimal

open Float.Model Float.Model.UnpackedFloat

/-! ## Nearest numbers -/

/-- A fraction with a sign. -/
def signed : Sign → ℚ → ℚ
  | .positive, v => v
  | .negative, v => -v

/-- The finite number that a fraction rounds to. -/
inductive Near : ℚ → Float → Prop
  /-- Nothing is exact. -/
  | zero : Near 0 0
  /-- Anything else has a mantissa and an exponent. -/
  | nonzero (sign : Sign) {v : ℚ} {m : ℕ} {e : ℤ} (normal : Normal m e) (most : e ≤ 971) (rounds : RoundsTo v m e) :
      Near (signed sign v) (.ofModel (.pack (.finite sign m e normal.positive)))

section

variable {m : ℕ} {e : ℤ} {v w : ℚ} {x y : Float}

theorem toModel_unpack_pack (sign : Sign) (normal : Normal m e) (most : e ≤ 971) :
    (Float.ofModel (.pack (.finite sign m e normal.positive))).toModel.unpack =
      .finite sign m e normal.positive :=
  unpack_pack normal most

theorem ratOf_pack (sign : Sign) (normal : Normal m e) (most : e ≤ 971) :
    ratOf (.ofModel (.pack (.finite sign m e normal.positive))) = signed sign (m * 2 ^ e) := by
  rw [ratOf_eq_valueOf, toModel_unpack_pack sign normal most]
  cases sign <;> rfl

namespace RoundsTo

theorem positive (rounds : RoundsTo v m e) (normal : Normal m e) : 0 < v :=
  lt_of_lt_of_le (by positivity) (rounds.least_le normal)

/-- A power of two is exact, so a fraction that is at least that does not round below it. -/
theorem two_pow_le {k : ℤ} (rounds : RoundsTo v m e) (normal : Normal m e) (low : (2 : ℚ) ^ k ≤ v)
    (place : -1022 ≤ k) : (2 : ℚ) ^ k ≤ m * 2 ^ e := by
  have power : ((2 ^ 52 : ℕ) : ℚ) * 2 ^ (k - 52) = 2 ^ k := by
    rw [Nat.cast_pow, Nat.cast_ofNat, ← zpow_natCast, ← zpow_add₀ two_ne_zero]
    congr 1
    omega
  have exact := RoundsTo.exact (2 ^ 52) (k - 52)
  rw [power] at exact
  rw [← power]
  exact exact.mono ⟨by norm_num, by norm_num, by omega, .inl le_rfl⟩ rounds normal low

end RoundsTo

namespace Near

theorem isFinite (near : Near v x) : x.isFinite = true := by
  cases near with
  | zero => exact isFinite_zero
  | nonzero sign normal most => exact (isFinite_pack_iff normal).2 most

theorem size (normal : Normal m e) : (0 : ℚ) < m * 2 ^ e := by
  have positive := normal.positive
  positivity

theorem exists_of_pos (near : Near v x) (positive : 0 < v) :
    ∃ m e, Normal m e ∧ RoundsTo v m e ∧ ratOf x = m * 2 ^ e := by
  cases near with
  | zero => exact absurd positive (lt_irrefl 0)
  | nonzero sign normal most rounds =>
      cases sign with
      | positive => exact ⟨_, _, normal, rounds, ratOf_pack .positive normal most⟩
      | negative => exact absurd positive (not_lt.2 (neg_nonpos.2 (rounds.positive normal).le))

theorem exists_of_neg (near : Near v x) (negative : v < 0) :
    ∃ m e, Normal m e ∧ RoundsTo (-v) m e ∧ ratOf x = -(m * 2 ^ e) := by
  cases near with
  | zero => exact absurd negative (lt_irrefl 0)
  | nonzero sign normal most rounds =>
      cases sign with
      | positive => exact absurd negative (not_lt.2 (rounds.positive normal).le)
      | negative => exact ⟨_, _, normal, by rwa [signed, neg_neg], ratOf_pack .negative normal most⟩

theorem nonneg (near : Near v x) (least : 0 ≤ v) : 0 ≤ ratOf x := by
  cases near with
  | zero => exact ratOf_zero.ge
  | nonzero sign normal most rounds =>
      rw [ratOf_pack sign normal most]
      cases sign with
      | positive => exact (size normal).le
      | negative => exact absurd (rounds.positive normal) (not_lt.2 (neg_nonneg.1 least))

theorem nonpos (near : Near v x) (most : v ≤ 0) : ratOf x ≤ 0 := by
  cases near with
  | zero => exact ratOf_zero.le
  | nonzero sign normal few rounds =>
      rw [ratOf_pack sign normal few]
      cases sign with
      | positive => exact absurd (rounds.positive normal) (not_lt.2 most)
      | negative => exact neg_nonpos.2 (size normal).le

/-- Of two fractions the lesser does not round to a greater number. -/
theorem mono (first : Near v x) (second : Near w y) (le : v ≤ w) : ratOf x ≤ ratOf y := by
  obtain low | high := le_or_gt v 0
  · obtain least | less := le_or_gt 0 w
    · exact (first.nonpos low).trans (second.nonneg least)
    · obtain ⟨m, e, normal, rounds, value⟩ := first.exists_of_neg (le.trans_lt less)
      obtain ⟨n, f, normal', rounds', value'⟩ := second.exists_of_neg less
      rw [value, value']
      exact neg_le_neg (rounds'.mono normal' rounds normal (neg_le_neg le))
  · obtain ⟨m, e, normal, rounds, value⟩ := first.exists_of_pos high
    obtain ⟨n, f, normal', rounds', value'⟩ := second.exists_of_pos (high.trans_le le)
    rw [value, value']
    exact rounds.mono normal rounds' normal' le

end Near

/-! ## Seconds and days -/

variable {a b : ℤ}

/-- The seconds of a span without its sign. -/
theorem exists_seconds (nonzero : a ≠ 0) (short : a.natAbs < 2 ^ 60) : ∃ m e, ∃ normal : Normal m e, e ≤ 971 ∧
    RoundsTo (a.natAbs * (1 / 1000000)) m e ∧
      Float.ofScientific a.natAbs true 6 = .ofModel (.pack (.finite .positive m e normal.positive)) := by
  have one : (1 : ℚ) ≤ a.natAbs := by exact_mod_cast Int.natAbs_pos.2 nonzero
  have few : (a.natAbs : ℚ) < 2 ^ 60 := by exact_mod_cast short
  have micro : (10 : ℚ) ^ (-(6 : ℤ)) = 1 / 1000000 := by norm_num
  have low : (2 : ℚ) ^ (-1022 : ℤ) ≤ a.natAbs * 10 ^ (-(6 : ℤ)) := by
    calc (2 : ℚ) ^ (-1022 : ℤ) ≤ 2 ^ (-20 : ℤ) := zpow_le_zpow_right₀ one_le_two (by norm_num)
      _ ≤ 1 * 10 ^ (-(6 : ℤ)) := by norm_num
      _ ≤ a.natAbs * 10 ^ (-(6 : ℤ)) := mul_le_mul_of_nonneg_right one (by positivity)
  have high : a.natAbs * (10 : ℚ) ^ (-(6 : ℤ)) < 2 ^ (60 : ℤ) := by
    rw [micro]
    norm_num at few ⊢
    linarith
  obtain ⟨m, e, normal, rounds⟩ := exists_roundsTo low
  have most : e ≤ 971 := (rounds.exponent_le normal high (by norm_num)).trans (by norm_num)
  have read : Float.ofScientific a.natAbs true 6 = .ofModel (.pack (.finite .positive m e normal.positive)) :=
    ofScientific_of_roundsTo normal (by omega) rounds
  exact ⟨m, e, normal, most, micro ▸ rounds, read⟩

/-- A span in seconds is rounded once. -/
theorem near_secondsOf (short : a.natAbs < 2 ^ 60) : Near (a / 1000000) (secondsOf a) := by
  obtain rfl | nonzero := eq_or_ne a 0
  · have nothing : secondsOf 0 = 0 := by decide +kernel
    rw [nothing, Int.cast_zero, zero_div]
    exact .zero
  · obtain ⟨m, e, normal, most, rounds, read⟩ := exists_seconds nonzero short
    unfold secondsOf
    rw [read]
    dsimp only
    split
    · rename_i negative
      have value : (a : ℚ) / 1000000 = signed .negative (a.natAbs * (1 / 1000000)) := by
        rw [signed, Nat.cast_natAbs, abs_of_neg negative]
        push_cast
        ring
      rw [value, neg_pack normal most]
      exact .nonzero .negative normal most rounds
    · rename_i positive
      have value : (a : ℚ) / 1000000 = signed .positive (a.natAbs * (1 / 1000000)) := by
        rw [signed, Nat.cast_natAbs, abs_of_nonneg (not_lt.1 positive)]
        ring
      rw [value]
      exact .nonzero .positive normal most rounds

/-- A number that is not tiny may be divided by the seconds of a day, and its exponent does not grow. -/
theorem exists_day (normal : Normal m e) (least : (2 : ℚ) ^ (-20 : ℤ) ≤ m * 2 ^ e) :
    ∃ n f, Normal n f ∧ RoundsTo (m * 2 ^ e / 86400) n f ∧ f ≤ e := by
  have bottom : (2 : ℚ) ^ (-1022 : ℤ) ≤ m * 2 ^ e / 86400 := by
    calc (2 : ℚ) ^ (-1022 : ℤ) ≤ 2 ^ (-40 : ℤ) := zpow_le_zpow_right₀ one_le_two (by norm_num)
      _ ≤ 2 ^ (-20 : ℤ) / 86400 := by norm_num
      _ ≤ m * 2 ^ e / 86400 := div_le_div_of_nonneg_right least (by norm_num)
  obtain ⟨n, f, normal', rounds⟩ := exists_roundsTo bottom
  refine ⟨n, f, normal', rounds, ?_⟩
  by_contra more
  have above := normal.lt_of_exponent_lt normal' (not_le.1 more)
  have less : m * (2 : ℚ) ^ e / 86400 ≤ m * 2 ^ e := div_le_self (by positivity) (by norm_num)
  exact absurd (rounds.mono normal' (RoundsTo.exact m e) normal less) (not_le.2 above)

theorem pack_div_day {n : ℕ} {f : ℤ} (sign : Sign) (normal : Normal m e) (most : e ≤ 971) (normal' : Normal n f)
    (rounds : RoundsTo (m * 2 ^ e / 86400) n f) :
    Float.ofModel (.pack (.finite sign m e normal.positive)) / Quantity.ofNat 86400 =
      .ofModel (.pack (.finite sign n f normal'.positive)) := by
  have day : (Quantity.ofNat 86400 : Float).toModel.unpack =
      .finite .positive (86400 * 2 ^ 36) (-36) (by norm_num) := by rfl
  have seconds : ((86400 * 2 ^ 36 : ℕ) : ℚ) * 2 ^ (-36 : ℤ) = 86400 := by norm_num
  change Float.ofModel (.pack (UnpackedFloat.div Format.binary64
    (Float.ofModel (.pack (.finite sign m e normal.positive))).toModel.unpack
    (Quantity.ofNat 86400 : Float).toModel.unpack)) = _
  rw [toModel_unpack_pack sign normal most, day,
    div_eq sign normal.positive (by norm_num) normal' (seconds.symm ▸ rounds)]

/-- The days of a number of seconds are rounded once more. -/
theorem Near.div_day (near : Near v x) (low : v ≠ 0 → (2 : ℚ) ^ (-20 : ℤ) ≤ |v|) :
    Near (ratOf x / 86400) (x / Quantity.ofNat 86400) := by
  cases near with
  | zero =>
      have nothing : (0 : Float) / Quantity.ofNat 86400 = 0 := by decide +kernel
      rw [nothing, ratOf_zero, zero_div]
      exact .zero
  | @nonzero sign v m e normal most rounds =>
      have some := rounds.positive normal
      have large : (2 : ℚ) ^ (-20 : ℤ) ≤ v := by
        cases sign with
        | positive => simpa [signed, abs_of_pos some] using low some.ne'
        | negative => simpa [signed, abs_of_pos some] using low (neg_ne_zero.2 some.ne')
      obtain ⟨n, f, normal', rounds', fewer⟩ := exists_day normal (rounds.two_pow_le normal large (by norm_num))
      have value : ratOf (.ofModel (.pack (.finite sign m e normal.positive))) / 86400 =
          signed sign (m * 2 ^ e / 86400) := by
        rw [ratOf_pack sign normal most]
        cases sign with
        | positive => rfl
        | negative => exact neg_div _ _
      rw [pack_div_day sign normal most normal' rounds', value]
      exact .nonzero sign normal' (fewer.trans most) rounds'

theorem near_days (short : a.natAbs < 2 ^ 60) :
    Near (ratOf (secondsOf a) / 86400) (Quantity.days a : Float) := by
  refine (near_secondsOf short).div_day fun nonzero => ?_
  have some : a ≠ 0 := by
    rintro rfl
    exact nonzero (by simp)
  have one : (1 : ℚ) ≤ |(a : ℚ)| := by exact_mod_cast Int.one_le_abs some
  rw [abs_div]
  norm_num
  linarith

/-- A longer span has at least as many days. -/
theorem ratOf_days_mono (le : a ≤ b) (short : a.natAbs < 2 ^ 60) (short' : b.natAbs < 2 ^ 60) :
    ratOf (Quantity.days a) ≤ ratOf (Quantity.days b) := by
  have span : (a : ℚ) / 1000000 ≤ b / 1000000 :=
    div_le_div_of_nonneg_right (by exact_mod_cast le) (by norm_num)
  have seconds := (near_secondsOf short).mono (near_secondsOf short') span
  exact (near_days short).mono (near_days short') (div_le_div_of_nonneg_right seconds (by norm_num))

/-- A finite number is compared with a whole number by its value. -/
theorem atLeast_iff {n : ℤ} (finite : x.isFinite = true) : Quantity.atLeast x n = true ↔ (n : ℚ) ≤ ratOf x := by
  obtain ⟨parts, found⟩ : ∃ parts, finite? x = some parts := ⟨_, if_pos finite⟩
  have value : ratOf x = parts.toRat := by rw [ratOf, found]; rfl
  have answer {order : Ordering} (compared : compareInt? x n = some order) : Quantity.atLeast x n = (order != .lt) := by
    simp only [Quantity.atLeast, compared]
    cases order <;> rfl
  rw [value]
  obtain less | same | more := lt_trichotomy parts.toRat n
  · have compared : compareInt? x n = some .lt := by simp [compareInt?, found, less]
    simp [answer compared, less]
  · have compared : compareInt? x n = some .eq := by simp [compareInt?, found, same]
    simp [answer compared, same]
  · have compared : compareInt? x n = some .gt := by simp [compareInt?, found, more.not_gt, more.ne']
    simp [answer compared, more.le]

end

end Decimal

/-! ## Moments -/

namespace Time

theorem daysBeforeMonth_le {year month : ℕ} (most : month ≤ 12) : daysBeforeMonth year month ≤ 335 := by
  unfold daysBeforeMonth monthLengths
  cases isLeap year <;> interval_cases month <;> decide

theorem daysInMonth_le (year month : ℕ) : daysInMonth year month ≤ 31 := by
  unfold daysInMonth monthLengths
  by_cases inside : month - 1 < 12
  · generalize month - 1 = k at *
    cases isLeap year <;> interval_cases k <;> decide
  · rw [List.getD_eq_default]
    simpa using inside

theorem Date.dayNumber_le {d : Date} (valid : d.fault? = none) : d.dayNumber ≤ 3652060 := by
  unfold Date.fault? at valid
  split at valid
  · cases valid
  · rename_i year
    split at valid
    · cases valid
    · rename_i month
      split at valid
      · cases valid
      · rename_i day
        simp only [Bool.or_eq_true, decide_eq_true_eq, not_or, not_lt] at year month day
        have before : daysBeforeMonth d.year d.month ≤ 335 := daysBeforeMonth_le month.2
        have within := daysInMonth_le d.year d.month
        unfold Date.dayNumber daysBeforeYear
        dsimp only
        omega

namespace Moment

variable {s t : Moment}

/-- The instant of a moment that there is. -/
theorem instant_bounds (valid : t.fault? = none) : -2 ^ 58 < t.instant ∧ t.instant < 2 ^ 59 := by
  unfold fault? at valid
  split at valid
  · cases valid
  · rename_i near
    split at valid
    · cases valid
    · rename_i date
      have number := Date.dayNumber_le date
      have east : -(microsecondsPerDay : ℤ) < t.offset.getD 0 ∧ t.offset.getD 0 < microsecondsPerDay := by
        cases given : t.offset with
        | none => decide
        | some offset =>
            rw [given, Option.filter_eq_none_iff] at near
            have small : ¬ (microsecondsPerDay ≤ offset.natAbs) := by simpa using near offset rfl
            simp only [Option.getD_some]
            omega
      have clock : t.timeOfDay < microsecondsPerDay := by
        unfold timeOfDay
        simp only [microsecondsPerDay, microsecondsPerSecond]
        split_ifs at valid
        omega
      unfold instant
      simp only [microsecondsPerDay, microsecondsPerSecond] at *
      omega

theorem natAbs_sub_lt (valid : s.fault? = none) (valid' : t.fault? = none) :
    (s.instant - t.instant).natAbs < 2 ^ 60 := by
  have first := instant_bounds valid
  have second := instant_bounds valid'
  omega

end Moment

end Time

end Triage
