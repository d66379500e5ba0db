import Triage.Decimal.Binary
import Triage.Proofs.Decimal.Rounding

/-!
# The bits of binary64 numbers

Sign, mantissa and exponent of a finite number determine its bits, and are what is read off them.
-/

namespace Triage.Decimal

open Float.Model Float.Model.UnpackedFloat

/-! ## Fields -/

theorem toNat_unpackExponent (b : BitVec 64) :
    (@unpackExponent Format.binary64 b).toNat = b.toNat / 2 ^ 52 % 2 ^ 11 := by
  simp [unpackExponent, BitVec.extractLsb, BitVec.extractLsb', Nat.shiftRight_eq_div_pow]

theorem toNat_unpackMantissa (b : BitVec 64) :
    (@unpackMantissa Format.binary64 b).toNat = b.toNat % 2 ^ 52 := by
  simp [unpackMantissa, BitVec.extractLsb, BitVec.extractLsb', Nat.shiftRight_eq_div_pow]

theorem toNat_unpackSign (b : BitVec 64) :
    (@unpackSign Format.binary64 b).toNat = b.toNat / 2 ^ 63 := by
  have bound : b.toNat < 2 ^ 64 := b.isLt
  simp [unpackSign, BitVec.extractLsb, BitVec.extractLsb', Nat.shiftRight_eq_div_pow]
  omega

/-! ## Numbers from fields -/

section

variable {sign : Sign} {exponent : BitVec 11} {fraction : BitVec 52} {m : ℕ} {e : ℤ}

theorem unpack_least (some : 0 < fraction.toNat) :
    UnpackedFloat.unpack Format.binary64 (packComponents Format.binary64 sign 0#11 fraction) =
      .finite sign fraction.toNat (-1074) some := by
  have filled : fraction ≠ 0#52 := by
    rintro rfl
    exact absurd some (by decide)
  simp only [UnpackedFloat.unpack, unpackMantissa_packComponents, unpackExponent_packComponents,
    unpackSign_packComponents, Sign.ofBitVec_toBitVec, filled, dite_false]
  rfl

theorem unpack_full (low : 0 < exponent.toNat) (high : exponent.toNat < 2047) :
    UnpackedFloat.unpack Format.binary64 (packComponents Format.binary64 sign exponent fraction) =
      .finite sign (2 ^ 52 + fraction.toNat) (exponent.toNat - 1075)
        (Nat.add_pos_left (Nat.two_pow_pos 52) fraction.toNat) := by
  have finite : exponent ≠ -1#11 := by
    rintro rfl
    exact absurd high (by decide)
  have larger : exponent ≠ 0#11 := by
    rintro rfl
    exact absurd low (by decide)
  have implicit : (1#1 ++ fraction).toNat = 2 ^ 52 + fraction.toNat := by
    rw [BitVec.toNat_append, ← Nat.shiftLeft_add_eq_or_of_lt fraction.isLt]
    rfl
  simp only [UnpackedFloat.unpack, unpackMantissa_packComponents, unpackExponent_packComponents,
    unpackSign_packComponents, Sign.ofBitVec_toBitVec, finite, larger, if_false, implicit]
  rfl

theorem pack_least (positive : 0 < m) (small : m < 2 ^ 52) :
    UnpackedFloat.pack Format.binary64 (.finite sign m (-1074) positive) =
      packComponents Format.binary64 sign 0#11 (BitVec.ofNat 52 m) := by
  have places : m.log2 < 52 := (Nat.log2_lt positive.ne').2 small
  have short : ¬ m.log2 + 1 = Format.binary64.mantissaBits := by
    change ¬ m.log2 + 1 = 53
    omega
  rw [UnpackedFloat.pack, if_neg (by decide)]
  exact if_neg short

theorem pack_full (positive : 0 < m) (full : 2 ^ 52 ≤ m) (small : m < 2 ^ 53) (least : -1074 ≤ e)
    (most : e ≤ 971) :
    UnpackedFloat.pack Format.binary64 (.finite sign m e positive) =
      packComponents Format.binary64 sign (BitVec.ofNat 11 (e + 1075).toNat) (BitVec.ofNat 52 m) := by
  have places : m.log2 + 1 = Format.binary64.mantissaBits := by
    have low : 52 ≤ m.log2 := (Nat.le_log2 positive.ne').2 full
    have high : m.log2 < 53 := (Nat.log2_lt positive.ne').2 small
    change m.log2 + 1 = 53
    omega
  have bias : e + Format.binary64.exponentBias + Format.binary64.mantissaBitsWithoutImplicit = e + 1075 := by
    change e + (1023 : ℕ) + (52 : ℕ) = e + 1075
    ring
  have bounded : ¬ 2 ^ Format.binary64.exponentBits ≤ (e + 1075).toNat + 1 := by
    change ¬ 2048 ≤ (e + 1075).toNat + 1
    omega
  simp only [UnpackedFloat.pack, bias]
  rw [if_neg bounded, if_pos places]

/-- A mantissa and an exponent that bits can hold are read off the bits again. -/
theorem unpack_pack (normal : Normal m e) (most : e ≤ 971) :
    UnpackedFloat.unpack Format.binary64 (UnpackedFloat.pack Format.binary64 (.finite sign m e normal.positive)) =
      .finite sign m e normal.positive := by
  obtain ⟨positive, small, least, full⟩ := normal
  by_cases large : 2 ^ 52 ≤ m
  · have exponent : (BitVec.ofNat 11 (e + 1075).toNat).toNat = (e + 1075).toNat := by
      rw [BitVec.toNat_ofNat]
      omega
    have fraction : 2 ^ 52 + (BitVec.ofNat 52 m).toNat = m := by
      rw [BitVec.toNat_ofNat]
      omega
    rw [pack_full positive large small least most, unpack_full (by omega) (by omega)]
    rw [UnpackedFloat.finite.injEq]
    exact ⟨rfl, fraction, by omega⟩
  · obtain rfl := full.resolve_left large
    have fraction : (BitVec.ofNat 52 m).toNat = m := by
      rw [BitVec.toNat_ofNat]
      omega
    rw [pack_least positive (by omega), unpack_least (by omega)]
    rw [UnpackedFloat.finite.injEq]
    exact ⟨rfl, fraction, rfl⟩

end

/-! ## Numbers from bits -/

namespace Binary

def sign (x : Binary) : Sign := if x.negative then .negative else .positive

/-- The number with its parts apart. -/
def unpacked (x : Binary) : UnpackedFloat :=
  if zero : x.m = 0 then .zero x.sign else .finite x.sign x.m x.q (Nat.pos_of_ne_zero zero)

theorem toNat_exponentField (bits : UInt64) :
    ((bits >>> 52) &&& 0x7FF).toNat = bits.toNat / 2 ^ 52 % 2 ^ 11 := by
  rw [UInt64.toNat_and, UInt64.toNat_shiftRight, ← Nat.shiftRight_eq_div_pow]
  exact Nat.and_two_pow_sub_one_eq_mod _ 11

theorem toNat_fractionField (bits : UInt64) : (bits &&& 0xFFFFFFFFFFFFF).toNat = bits.toNat % 2 ^ 52 := by
  rw [UInt64.toNat_and]
  exact Nat.and_two_pow_sub_one_eq_mod _ 52

theorem sign_field (bits : UInt64) : (bits >>> 63 == 1) = decide (bits.toNat / 2 ^ 63 = 1) := by
  rw [Bool.eq_iff_iff]
  simp [← UInt64.toNat_inj, Nat.shiftRight_eq_div_pow]

/-- A finite number is made of its sign, its mantissa and its exponent. -/
theorem ofBits_cases {bits : UInt64}
    (finite : (@unpackExponent Format.binary64 bits.toBitVec).toNat ≠ 2047) :
    ∃ (exponent : BitVec 11) (fraction : BitVec 52),
      bits.toBitVec = packComponents Format.binary64 (ofBits bits).sign exponent fraction ∧
      (exponent = 0#11 ∧ (ofBits bits).m = fraction.toNat ∧ (ofBits bits).q = -1074 ∧
          (ofBits bits).narrowBelow = false ∨
        0 < exponent.toNat ∧ exponent.toNat < 2047 ∧ (ofBits bits).m = 2 ^ 52 + fraction.toNat ∧
          (ofBits bits).q = exponent.toNat - 1075 ∧
          (ofBits bits).narrowBelow = (fraction.toNat == 0 && decide (1 < exponent.toNat))) := by
  have whole := @packComponents_unpackSign_unpackExponent_unpackMantissa Format.binary64 bits.toBitVec
  have signField := toNat_unpackSign bits.toBitVec
  have exponentField := toNat_unpackExponent bits.toBitVec
  have fractionField := toNat_unpackMantissa bits.toBitVec
  change _ = bits.toNat / 2 ^ 63 at signField
  change _ = bits.toNat / 2 ^ 52 % 2 ^ 11 at exponentField
  change _ = bits.toNat % 2 ^ 52 at fractionField
  -- from here on the number is its three fields
  generalize @unpackSign Format.binary64 bits.toBitVec = s at whole signField
  generalize @unpackExponent Format.binary64 bits.toBitVec = exponent at *
  generalize @unpackMantissa Format.binary64 bits.toBitVec = fraction at *
  have parts : ofBits bits = if exponent.toNat = 0 then ⟨decide (s.toNat = 1), fraction.toNat, -1074, false⟩
      else ⟨decide (s.toNat = 1), 2 ^ 52 + fraction.toNat, exponent.toNat - 1075,
        fraction.toNat == 0 && decide (1 < exponent.toNat)⟩ := by
    simp only [ofBits, toNat_exponentField, toNat_fractionField, sign_field, beq_iff_eq, signField,
      exponentField, fractionField]
    rfl
  have named : (ofBits bits).sign = Sign.ofBitVec s := by
    have two : ∀ s : BitVec 1, s = 0#1 ∨ s = 1#1 := by decide
    have negative : (ofBits bits).negative = decide (s.toNat = 1) := by
      rw [parts]
      split <;> rfl
    rw [sign, negative]
    obtain rfl | rfl := two s <;> rfl
  refine ⟨exponent, fraction, named ▸ whole.symm, ?_⟩
  by_cases least : exponent.toNat = 0
  · rw [parts, if_pos least]
    exact .inl ⟨BitVec.eq_of_toNat_eq least, rfl, rfl, rfl⟩
  · have bound : exponent.toNat < 2 ^ 11 := exponent.isLt
    rw [parts, if_neg least]
    exact .inr ⟨by omega, by omega, rfl, rfl, rfl⟩

/-- Bits of a finite number come apart into its sign, mantissa and exponent. -/
theorem unpack_toBitVec {bits : UInt64}
    (finite : (@unpackExponent Format.binary64 bits.toBitVec).toNat ≠ 2047) :
    UnpackedFloat.unpack Format.binary64 bits.toBitVec = (ofBits bits).unpacked := by
  obtain ⟨exponent, fraction, whole, ⟨rfl, m, q, -⟩ | ⟨low, high, m, q, -⟩⟩ := ofBits_cases finite
  · rw [whole, unpacked]
    obtain none | some := Nat.eq_zero_or_pos fraction.toNat
    · obtain rfl : fraction = 0#52 := BitVec.eq_of_toNat_eq none
      rw [dif_pos (m.trans none)]
      exact unpack_packedZero
    · rw [unpack_least some, dif_neg (by omega), UnpackedFloat.finite.injEq]
      exact ⟨rfl, m.symm, q.symm⟩
  · rw [whole, unpacked, unpack_full low high, dif_neg (by omega), UnpackedFloat.finite.injEq]
    exact ⟨rfl, m.symm, q.symm⟩

theorem normal_ofBits {bits : UInt64}
    (finite : (@unpackExponent Format.binary64 bits.toBitVec).toNat ≠ 2047)
    (positive : 0 < (ofBits bits).m) :
    Normal (ofBits bits).m (ofBits bits).q ∧ (ofBits bits).q ≤ 971 ∧
      ((ofBits bits).narrowBelow = true ↔ (ofBits bits).m = 2 ^ 52 ∧ -1074 < (ofBits bits).q) := by
  obtain ⟨exponent, fraction, -, ⟨-, m, q, narrow⟩ | ⟨low, high, m, q, narrow⟩⟩ := ofBits_cases finite
  · have bound := fraction.isLt
    refine ⟨⟨positive, by omega, by omega, .inr q⟩, by omega, ?_⟩
    rw [narrow, q]
    simp
  · have bound := fraction.isLt
    refine ⟨⟨positive, by omega, by omega, .inl (by omega)⟩, by omega, ?_⟩
    rw [narrow, m, q, Bool.and_eq_true, beq_iff_eq, decide_eq_true_eq]
    omega

end Binary

/-! ## Finite numbers -/

section

variable {x : Float} {parts : Binary}

theorem exponent_of_isFinite (finite : x.isFinite = true) :
    (@unpackExponent Format.binary64 x.toBits.toBitVec).toNat ≠ 2047 := by
  intro most
  have inner : @unpackExponent Format.binary64 x.toBits.toBitVec = -1#11 :=
    BitVec.eq_of_toNat_eq most
  change (UnpackedFloat.unpack Format.binary64 x.toBits.toBitVec).isFinite = true at finite
  rw [UnpackedFloat.unpack] at finite
  simp only [inner, if_true] at finite
  split at finite <;> cases finite

/-- Numbers with greater exponents are not finite. -/
theorem exponent_le_of_isFinite {sign : Sign} {m : ℕ} {e : ℤ} (normal : Normal m e)
    (finite : (Float.ofModel (.pack (.finite sign m e normal.positive))).isFinite = true) : e ≤ 971 := by
  by_contra large
  have packed : UnpackedFloat.pack Format.binary64 (.finite sign m e normal.positive) =
      packComponents Format.binary64 sign (-1#11) 0#52 := by
    rw [UnpackedFloat.pack]
    refine if_pos ?_
    change 2048 ≤ (e + (1023 : ℕ) + (52 : ℕ)).toNat + 1
    omega
  refine exponent_of_isFinite finite ?_
  change (@unpackExponent Format.binary64 (UnpackedFloat.pack Format.binary64
    (.finite sign m e normal.positive))).toNat = 2047
  rw [packed, unpackExponent_packComponents]
  rfl

theorem finite?_eq_some (found : finite? x = some parts) : x.isFinite = true ∧ parts = .ofBits x.toBits := by
  unfold finite? at found
  split at found
  · rename_i finite
    cases found
    exact ⟨finite, rfl⟩
  · cases found

theorem unpack_of_finite? (found : finite? x = some parts) : x.toModel.unpack = parts.unpacked := by
  obtain ⟨finite, rfl⟩ := finite?_eq_some found
  exact Binary.unpack_toBitVec (exponent_of_isFinite finite)

theorem normal_of_finite? (found : finite? x = some parts) (positive : 0 < parts.m) :
    Normal parts.m parts.q ∧ parts.q ≤ 971 ∧
      (parts.narrowBelow = true ↔ parts.m = 2 ^ 52 ∧ -1074 < parts.q) := by
  obtain ⟨finite, rfl⟩ := finite?_eq_some found
  exact Binary.normal_ofBits (exponent_of_isFinite finite) positive

/-- A number is packed from its parts, whatever it is. -/
theorem eq_pack_unpack (x : Float) : x = .ofModel (.pack x.toModel.unpack) := by
  rw [← Float.toBits_inj, ← UInt64.toBitVec_inj]
  exact (pack_unpack_of_valid x.toModel.valid).symm

/-- A finite number is packed from its parts. -/
theorem eq_pack_of_finite? (found : finite? x = some parts) : x = .ofModel (.pack parts.unpacked) := by
  rw [← unpack_of_finite? found]
  exact eq_pack_unpack x

end

end Triage.Decimal
