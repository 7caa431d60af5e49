import Mathlib
import StackVM.Number.Binary
import StackVM.Proofs.Number.Rounding

/-! # The parts of a finite number determine it

The lemmas on `Float` itself come only with the library as a whole.
-/

namespace StackVM.Number

open Float.Model Float.Model.UnpackedFloat

namespace Parts

/-- The sign of the parts. -/
def sign (p : Parts) : Sign := if p.negative then .negative else .positive

/-- The parts as an unpacked number. -/
def unpacked (p : Parts) : UnpackedFloat :=
  if nonzero : p.significand = 0 then .zero p.sign
  else .finite p.sign p.significand p.exponent (Nat.pos_of_ne_zero nonzero)

/-- The number of the parts. -/
def float (p : Parts) : Float := ⟨Float.Model.pack p.unpacked⟩

end Parts

variable {x : Float}

theorem toNat_unpackMantissa (x : Float) :
    (@unpackMantissa .binary64 x.toModel.toBits.toBitVec).toNat =
      x.toBits.toNat % 0x10000000000000 := by
  rw [unpackMantissa_def]
  simp [Float.toBits]

theorem toNat_unpackExponent (x : Float) :
    (@unpackExponent .binary64 x.toModel.toBits.toBitVec).toNat = exponentField x := by
  rw [unpackExponent_def]
  simp [Float.toBits, exponentField, Nat.shiftRight_eq_div_pow]

theorem parts_subnormal (field : exponentField x = 0) :
    parts x = ⟨isNegative x, x.toBits.toNat % 0x10000000000000, -1074⟩ := by
  simp only [parts, field]

theorem parts_normal (field : exponentField x ≠ 0) :
    parts x = ⟨isNegative x, 0x10000000000000 + x.toBits.toNat % 0x10000000000000,
      (exponentField x : ℤ) - 1075⟩ := by
  obtain ⟨n, same⟩ := Nat.exists_eq_succ_of_ne_zero field
  simp only [parts, same, Parts.mk.injEq, true_and]
  omega

theorem parts_negative (x : Float) : (parts x).negative = isNegative x := by
  by_cases field : exponentField x = 0
  · rw [parts_subnormal field]
  · rw [parts_normal field]

private theorem ofBitVec_unpackSign (x : Float) :
    Sign.ofBitVec (@unpackSign .binary64 x.toModel.toBits.toBitVec) = (parts x).sign := by
  have bit : (@unpackSign .binary64 x.toModel.toBits.toBitVec).toNat =
      x.toBits.toNat / 0x8000000000000000 := by
    rw [unpackSign_def]
    have := x.toBits.toNat_lt
    simp [Float.toBits, Nat.shiftRight_eq_div_pow] at this ⊢
    omega
  have small := (@unpackSign .binary64 x.toModel.toBits.toBitVec).isLt
  simp only [Sign.ofBitVec, Parts.sign, parts_negative, isNegative, ← bit, BitVec.toNat_eq,
    BitVec.toNat_ofNat, beq_iff_eq]
  split_ifs
  · omega
  · rfl
  · rfl
  · omega

/-- Unpacking a finite number yields its parts. -/
theorem unpack_of_isFinite (finite : isFinite x = true) :
    x.toModel.unpack = (parts x).unpacked := by
  have field : exponentField x ≠ 2047 := by simpa [isFinite] using finite
  have exponent := toNat_unpackExponent x
  have fraction := toNat_unpackMantissa x
  have sign := ofBitVec_unpackSign x
  have proper : @unpackExponent .binary64 x.toModel.toBits.toBitVec ≠ -1#11 := by
    intro full
    rw [full] at exponent
    exact field exponent.symm
  simp only [Float.Model.unpack, UnpackedFloat.unpack, if_neg proper, sign]
  by_cases zero : exponentField x = 0
  · have empty : @unpackExponent .binary64 x.toModel.toBits.toBitVec = 0#11 :=
      BitVec.eq_of_toNat_eq (exponent.trans zero)
    simp only [empty, if_true, parts_subnormal zero, Parts.unpacked]
    by_cases none : x.toBits.toNat % 0x10000000000000 = 0
    · have absent : @unpackMantissa .binary64 x.toModel.toBits.toBitVec = 0#52 :=
        BitVec.eq_of_toNat_eq (fraction.trans none)
      rw [dif_pos absent, dif_pos none]
    · have present : @unpackMantissa .binary64 x.toModel.toBits.toBitVec ≠ 0#52 := by
        intro absent
        rw [absent] at fraction
        exact none fraction.symm
      rw [dif_neg present, dif_neg none]
      simp only [UnpackedFloat.finite.injEq, fraction, true_and]
      rfl
  · have filled : @unpackExponent .binary64 x.toModel.toBits.toBitVec ≠ 0#11 := by
      intro empty
      rw [empty] at exponent
      exact zero exponent.symm
    have implicit : (1#1 ++ @unpackMantissa .binary64 x.toModel.toBits.toBitVec).toNat =
        0x10000000000000 + x.toBits.toNat % 0x10000000000000 := by
      rw [BitVec.toNat_append, ← Nat.shiftLeft_add_eq_or_of_lt (BitVec.isLt _), fraction]
      rfl
    simp only [if_neg filled, parts_normal zero, Parts.unpacked]
    rw [dif_neg (by omega)]
    simp only [UnpackedFloat.finite.injEq, implicit, exponent, true_and]
    rfl

theorem isFinite_of_unpack {p : Parts} (unpacks : x.toModel.unpack = p.unpacked) :
    isFinite x = true := by
  by_contra infinite
  have field : exponentField x = 2047 := by simpa [isFinite] using infinite
  have full : @unpackExponent .binary64 x.toModel.toBits.toBitVec = -1#11 :=
    BitVec.eq_of_toNat_eq ((toNat_unpackExponent x).trans field)
  simp only [Float.Model.unpack, UnpackedFloat.unpack, full, if_true, Parts.unpacked] at unpacks
  split_ifs at unpacks

/-- A finite number is the number of its parts. -/
theorem float_parts (finite : isFinite x = true) : (parts x).float = x := by
  rw [Parts.float, ← unpack_of_isFinite finite, ← Float.toBits_inj, ← UInt64.toBitVec_inj]
  exact pack_unpack_of_valid x.toModel.valid

theorem canonical_parts (finite : isFinite x = true) (nonzero : (parts x).significand ≠ 0) :
    Canonical (parts x).significand (parts x).exponent ∧ (parts x).exponent ≤ 971 := by
  have field : exponentField x ≠ 2047 := by simpa [isFinite] using finite
  have bound : exponentField x < 2048 := Nat.mod_lt _ (by decide)
  have fraction : x.toBits.toNat % 0x10000000000000 < 0x10000000000000 := Nat.mod_lt _ (by decide)
  by_cases zero : exponentField x = 0
  · rw [parts_subnormal zero] at nonzero ⊢
    exact ⟨⟨Nat.pos_of_ne_zero nonzero, by simp only; omega, le_rfl, .inr rfl⟩, by simp⟩
  · rw [parts_normal zero] at nonzero ⊢
    simp only
    exact ⟨⟨by omega, by omega, by omega, .inl (by omega)⟩, by omega⟩

namespace Parts

variable {p : Parts}

theorem unpacked_of_pos (p : Parts) (pos : 0 < p.significand) :
    p.unpacked = .finite p.sign p.significand p.exponent pos := dif_neg pos.ne'

theorem unpack_float_zero (zero : p.significand = 0) : p.float.toModel.unpack = p.unpacked := by
  have packed : p.unpacked = .zero p.sign := dif_pos zero
  rw [float, packed]
  exact @unpack_packedZero .binary64 p.sign

private theorem unpack_packComponents_normal (sign : Sign) {m b : ℕ} (low : 0x10000000000000 ≤ m)
    (high : m < 0x20000000000000) (positive : 0 < b) (bounded : b < 2047) (nonzero : 0 < m) :
    UnpackedFloat.unpack .binary64
        (packComponents .binary64 sign (BitVec.ofNat 11 b) (BitVec.ofNat 52 m)) =
      .finite sign m (b - 1075) nonzero := by
  have exponent : (BitVec.ofNat 11 b).toNat = b := by
    rw [BitVec.toNat_ofNat]
    omega
  have proper : BitVec.ofNat 11 b ≠ -1#11 := by
    intro full
    rw [full] at exponent
    exact bounded.ne exponent.symm
  have filled : BitVec.ofNat 11 b ≠ 0#11 := by
    intro empty
    rw [empty] at exponent
    exact positive.ne exponent
  have implicit : (1#1 ++ BitVec.ofNat 52 m).toNat = m := by
    rw [BitVec.toNat_append, ← Nat.shiftLeft_add_eq_or_of_lt (BitVec.isLt _)]
    simp only [BitVec.toNat_ofNat, Nat.shiftLeft_eq]
    omega
  simp only [UnpackedFloat.unpack, unpackExponent_packComponents, unpackMantissa_packComponents,
    unpackSign_packComponents, Sign.ofBitVec_toBitVec, if_neg proper, if_neg filled]
  simp only [UnpackedFloat.finite.injEq, true_and]
  exact ⟨implicit, by rw [exponent]; rfl⟩

private theorem unpack_packComponents_subnormal (sign : Sign) {m : ℕ} (high : m < 0x10000000000000)
    (nonzero : 0 < m) :
    UnpackedFloat.unpack .binary64 (packComponents .binary64 sign 0#11 (BitVec.ofNat 52 m)) =
      .finite sign m (-1074) nonzero := by
  have fraction : (BitVec.ofNat 52 m).toNat = m := by
    rw [BitVec.toNat_ofNat]
    omega
  have present : BitVec.ofNat 52 m ≠ 0#52 := by
    intro absent
    rw [absent] at fraction
    exact nonzero.ne fraction
  simp only [UnpackedFloat.unpack, unpackExponent_packComponents, unpackMantissa_packComponents,
    unpackSign_packComponents, Sign.ofBitVec_toBitVec, dif_neg present]
  rw [if_neg (by decide), if_pos trivial]
  simp only [UnpackedFloat.finite.injEq, true_and]
  exact ⟨fraction, rfl⟩

theorem unpack_float (canonical : Canonical p.significand p.exponent) (bounded : p.exponent ≤ 971) :
    p.float.toModel.unpack = p.unpacked := by
  obtain ⟨pos, lt, least, normal⟩ := canonical
  have packed := p.unpacked_of_pos pos
  have bias : (Format.binary64.exponentBias : ℤ) = 1023 := rfl
  have capacity : ¬ 2048 ≤ (p.exponent + 1023 + 52).toNat + 1 := by omega
  rw [float, packed]
  change UnpackedFloat.unpack .binary64 (UnpackedFloat.pack .binary64 _) = _
  simp only [UnpackedFloat.pack, bias, Nat.cast_ofNat]
  rw [if_neg capacity]
  by_cases full : 0x10000000000000 ≤ p.significand
  · have bits : p.significand.log2 + 1 = Format.binary64.mantissaBits := by
      have low := le_log2_of_full full
      have high := log2_lt_of_lt pos lt
      change p.significand.log2 + 1 = 53
      omega
    rw [if_pos bits, unpack_packComponents_normal p.sign full lt (by omega) (by omega) pos]
    simp only [UnpackedFloat.finite.injEq, true_and]
    omega
  · have bits : p.significand.log2 + 1 ≠ Format.binary64.mantissaBits := by
      have high : p.significand.log2 < 52 :=
        (Nat.log2_lt pos.ne').mpr ((not_le.mp full).trans_eq (by norm_num))
      change p.significand.log2 + 1 ≠ 53
      omega
    rw [if_neg bits, unpack_packComponents_subnormal p.sign (not_le.mp full) pos,
      normal.resolve_left full]

/-- Beyond the range of the exponents there is only infinity. -/
theorem unpack_float_beyond (positive : 0 < p.significand) (beyond : 971 < p.exponent) :
    p.float.toModel.unpack = .infinity p.sign := by
  have bias : (Format.binary64.exponentBias : ℤ) = 1023 := rfl
  have excess : 2048 ≤ (p.exponent + 1023 + 52).toNat + 1 := by omega
  rw [float, p.unpacked_of_pos positive]
  change UnpackedFloat.unpack .binary64 (UnpackedFloat.pack .binary64 _) = _
  simp only [UnpackedFloat.pack, bias, Nat.cast_ofNat]
  rw [if_pos excess]
  cases p.sign <;> rfl

/-- Negation changes nothing but the sign. -/
theorem neg_float (unpacks : p.float.toModel.unpack = p.unpacked) :
    -p.float = ({ p with negative := !p.negative } : Parts).float := by
  have turned : p.unpacked.neg = ({ p with negative := !p.negative } : Parts).unpacked := by
    have sign : -p.sign = ({ p with negative := !p.negative } : Parts).sign := by
      rcases p with ⟨_ | _, _, _⟩ <;> rfl
    unfold unpacked
    split
    · exact congrArg _ sign
    · simp only [UnpackedFloat.neg, sign]
  change Float.ofModel (Float.Model.pack p.float.toModel.unpack.neg) = _
  rw [unpacks, turned]
  rfl

end Parts

/-- A finite number without its sign. -/
def magnitude (x : Float) : Parts := { parts x with negative := false }

theorem unpack_magnitude (finite : isFinite x = true) :
    (magnitude x).float.toModel.unpack = (magnitude x).unpacked := by
  by_cases zero : (parts x).significand = 0
  · exact Parts.unpack_float_zero zero
  · obtain ⟨canonical, bounded⟩ := canonical_parts finite zero
    exact Parts.unpack_float canonical bounded

/-- A finite number is its magnitude with its sign. -/
theorem signed_magnitude (finite : isFinite x = true) :
    signed (parts x).negative (magnitude x).float = x := by
  have whole := float_parts finite
  unfold signed
  cases negative : (parts x).negative with
  | false =>
    rw [if_neg Bool.false_ne_true, magnitude, ← negative]
    exact whole
  | true =>
    rw [if_pos rfl, Parts.neg_float (unpack_magnitude finite), magnitude]
    simp only [Bool.not_false, ← negative]
    exact whole

end StackVM.Number
