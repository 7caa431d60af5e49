import StackVM.Number.Text
import StackVM.Proofs.Number.Nearest

/-! # Numbers that are integers are exact -/

namespace StackVM.Number

variable {x : Float} {p : Parts}

theorem Parts.whole_eq (whole : p.isWhole = true) :
    (p.whole : ℚ) = p.significand * 2 ^ p.exponent := by
  unfold Parts.whole
  split_ifs with below
  · have divides : 2 ^ (-p.exponent).toNat ∣ p.significand := by
      have : p.significand % (1 <<< (-p.exponent).toNat) = 0 := by
        simpa [Parts.isWhole, not_le.mpr below] using whole
      rw [Nat.one_shiftLeft] at this
      exact Nat.dvd_of_mod_eq_zero this
    rw [Nat.shiftRight_eq_div_pow, Nat.cast_div divides (by positivity),
      zpow_eq_inv_pow_toNat below.le, div_eq_mul_inv]
    push_cast
    rfl
  · rw [Nat.shiftLeft_eq, zpow_eq_pow_toNat (not_lt.mp below)]
    push_cast
    rfl

theorem beq_self_of_isFinite (finite : isFinite x = true) : (x == x) = true := by
  rw [Float.beq_self_iff]
  rintro rfl
  exact absurd finite (by decide)

theorem Parts.whole_eq_zero (whole : p.isWhole = true) : p.whole = 0 ↔ p.significand = 0 := by
  rw [← Nat.cast_eq_zero (R := ℚ), Parts.whole_eq whole, mul_eq_zero_iff_right (by positivity),
    Nat.cast_eq_zero]

private theorem ofNat_whole (finite : isFinite x = true) (whole : (parts x).isWhole = true)
    (nonzero : (parts x).significand ≠ 0) : ofNat (parts x).whole = (magnitude x).float := by
  obtain ⟨canonical, bounded⟩ := canonical_parts finite nonzero
  have positive := Nat.pos_of_ne_zero (mt (Parts.whole_eq_zero whole).mp nonzero)
  have rounds := RoundsTo.self (parts x).significand (parts x).exponent
  rw [← Parts.whole_eq whole] at rounds
  exact ofScientific_up positive (by decide) canonical (by simpa using rounds)

theorem ofInt_neg {n : ℕ} (positive : 0 < n) : ofInt (-(n : ℤ)) = -ofNat n := by
  obtain ⟨k, rfl⟩ := Nat.exists_eq_succ_of_ne_zero positive.ne'
  rfl

theorem ofInt_truncated_eq (finite : isFinite x = true) (whole : (parts x).isWhole = true)
    (nonzero : (parts x).significand ≠ 0) : ofInt (parts x).truncated = x := by
  have positive := Nat.pos_of_ne_zero (mt (Parts.whole_eq_zero whole).mp nonzero)
  have magnitude := ofNat_whole finite whole nonzero
  have signed := signed_magnitude finite
  rw [Number.signed, ← magnitude] at signed
  rw [Parts.truncated]
  cases negative : (parts x).negative with
  | true =>
    rw [negative, if_pos rfl] at signed
    rw [if_pos rfl, ofInt_neg positive, signed]
  | false =>
    rw [negative, if_neg Bool.false_ne_true] at signed
    rw [if_neg Bool.false_ne_true]
    exact signed

/-- Truncating a number that is an integer and reading the result loses nothing but the sign of
zero. -/
theorem ofInt_truncated (integer : isInteger x = true) :
    (ofInt (parts x).truncated == x) = true := by
  obtain ⟨finite, whole⟩ : isFinite x = true ∧ (parts x).isWhole = true := by
    simpa [isInteger] using integer
  by_cases zero : (parts x).significand = 0
  · have none : (parts x).truncated = 0 := by
      simp [Parts.truncated, (Parts.whole_eq_zero whole).mpr zero]
    have unpacked : x.toModel.unpack = .zero (parts x).sign :=
      (unpack_of_isFinite finite).trans (dif_pos zero)
    rw [none]
    change Float.Model.UnpackedFloat.beq (ofInt 0).toModel.unpack x.toModel.unpack = true
    rw [unpacked]
    rfl
  · rw [ofInt_truncated_eq finite whole zero]
    exact beq_self_of_isFinite finite

end StackVM.Number
