import StackVM.Proofs.Number.Digits
import StackVM.Proofs.Number.Exact
import StackVM.Proofs.Number.Shortest

/-! # Integers are written out in full

Below `2 ^ 53` the numbers are so dense that no other integer rounds to an integer. The search for
the shortest decimal therefore stops at the integer itself, at the latest on the grid of the units,
and the text of the number is the text of the integer.
-/

namespace StackVM.Number

section Grid

variable {i : Interval} {tie : Tie} {fuel : ℕ} {e : ℤ}

/-- The search does not go below a grid on which it finds something. -/
theorem searchGrid_exponent {k : ℕ} (less : k < fuel) (found : (i.shift (e - k)).pick tie ≠ none) :
    ∃ d, searchGrid tie i fuel e = some d ∧ e - k ≤ d.exponent := by
  induction fuel generalizing e k with
  | zero => omega
  | succ fuel ih =>
    rw [searchGrid]
    split
    case h_1 digits _ => exact ⟨⟨digits, e⟩, rfl, by simp only; omega⟩
    case h_2 missed =>
      cases k with
      | zero => simp [missed] at found
      | succ k =>
        have next : e - ((k + 1 : ℕ) : ℤ) = e - 1 - k := by omega
        rw [next] at found ⊢
        exact ih (Nat.lt_of_succ_lt_succ less) found

private theorem le_exponent_strip (fuel : ℕ) (d : Decimal) :
    d.exponent ≤ (d.strip fuel).exponent := by
  induction fuel generalizing d with
  | zero => exact le_rfl
  | succ fuel ih =>
    rw [Decimal.strip]
    split_ifs
    · have next := ih ⟨d.digits / 10, d.exponent + 1⟩
      simp only at next
      omega
    · exact le_rfl

private theorem le_raiseExponent (i : Interval) (fuel : ℕ) (e : ℤ) :
    e ≤ raiseExponent i fuel e := by
  induction fuel generalizing e with
  | zero => exact le_rfl
  | succ fuel ih =>
    rw [raiseExponent]
    split_ifs
    · have next := ih (e + 1)
      omega
    · exact le_rfl

end Grid

section Units

variable {m : ℕ}

private theorem ofParts_of_exponent {p : Parts} {k : ℕ} (exponent : p.exponent = -(k : ℤ)) :
    (Interval.ofParts p).value = p.significand <<< 2 ∧ (Interval.ofParts p).denominator = 4 <<< k := by
  have scaled : p.significand <<< 2 = 4 * p.significand := by
    rw [Nat.shiftLeft_eq]
    omega
  rcases Nat.eq_zero_or_pos k with rfl | positive
  · simp [Interval.ofParts, exponent, scaled]
  · simp [Interval.ofParts, exponent, scaled, positive]

private theorem leadingExponent_nonneg (negative : Bool) (large : 32 ≤ m)
    (small : m < 0x20000000000000) :
    0 ≤ leadingExponent (Interval.ofParts (integerParts negative m)) := by
  have positive : 0 < m := by omega
  have high := log2_lt_of_lt positive small
  have low : 5 ≤ m.log2 := (Nat.le_log2 positive.ne').mpr large
  have four : Nat.log2 4 = 2 := Nat.log2_two_pow (n := 2)
  have shifted : 0 < m <<< (52 - m.log2) := (canonical_shiftLeft positive small).2.pos
  obtain ⟨value, denominator⟩ := ofParts_of_exponent (p := integerParts negative m) rfl
  refine le_trans ?_ (le_raiseExponent _ 4 _)
  rw [value, denominator, integerParts, log2_shiftLeft shifted, log2_shiftLeft positive,
    log2_shiftLeft (by decide), four]
  omega

private theorem pick_units_ne_none (tie : Tie) (negative : Bool) (positive : 0 < m)
    (small : m < 0x20000000000000) :
    ((Interval.ofParts (integerParts negative m)).shift 0).pick tie ≠ none := by
  have canonical := canonical_integerParts negative positive small
  obtain ⟨nonzero, _, centre, _⟩ := ofParts_ends canonical.pos
  have shifted := (Interval.ofParts (integerParts negative m)).denominator_shift nonzero 0
  have exact := ((Interval.ofParts (integerParts negative m)).shift_ends 0).2.1
  rw [zpow_zero, div_one, centre, value_integerParts] at exact
  -- The value is the integer itself, hence its own lower neighbour.
  have below : ((Interval.ofParts (integerParts negative m)).shift 0).value /
      ((Interval.ofParts (integerParts negative m)).shift 0).denominator = m := by
    have low := ((Interval.ofParts (integerParts negative m)).shift 0).div_le_centre
    have high := Interval.centre_lt shifted
    rw [exact] at low high
    norm_cast at low high
    omega
  apply Interval.pick_ne_none
  left
  rw [below, Interval.contains_iff shifted, Interval.holds_shift_iff, holds_ofParts_iff canonical.pos,
    zpow_zero, mul_one, ← value_integerParts negative m]
  exact RoundsTo.self _ _

private theorem shortest_exponent_nonneg (tie : Tie) (negative : Bool) (large : 32 ≤ m)
    (small : m < 0x20000000000000) :
    0 ≤ (shortest tie (integerParts negative m)).exponent := by
  have positive : 0 < m := by omega
  have canonical := canonical_integerParts negative positive small
  have leading := leadingExponent_nonneg negative large small
  have fuel : leadingExponent (Interval.ofParts (integerParts negative m)) < 17 := by
    have bound : (m : ℚ) < 10 ^ (17 : ℤ) := by
      have : m < 10 ^ 17 := small.trans (by decide)
      exact_mod_cast this
    have above := leadingExponent_ofParts_le canonical
      ((exponent_integerParts_nonpos negative m).trans (by decide))
    rw [value_integerParts] at above
    exact (zpow_lt_zpow_iff_right₀ (by norm_num)).mp (above.trans_lt bound)
  have nonzero : ((integerParts negative m).significand == 0) = false := by
    simpa using canonical.pos.ne'
  generalize same : leadingExponent (Interval.ofParts (integerParts negative m)) = e at leading fuel
  have units : ((Interval.ofParts (integerParts negative m)).shift (e - e.toNat)).pick tie ≠ none := by
    rw [Int.toNat_of_nonneg leading, sub_self]
    exact pick_units_ne_none tie negative positive small
  obtain ⟨d, found, least⟩ := searchGrid_exponent (by omega : e.toNat < 17) units
  have stripped := le_exponent_strip 17 d
  rw [shortest, nonzero]
  simp only [Bool.false_eq_true, if_false, same, found, Option.getD_some]
  omega

/-- The shortest decimal of an integer is the integer. -/
theorem shortest_value (tie : Tie) (negative : Bool) (large : 32 ≤ m)
    (small : m < 0x20000000000000) :
    (shortest tie (integerParts negative m)).digits *
      10 ^ (shortest tie (integerParts negative m)).exponent.toNat = m := by
  have positive : 0 < m := by omega
  have canonical := canonical_integerParts negative positive small
  have least := shortest_exponent_nonneg tie negative large small
  have nonpos := exponent_integerParts_nonpos negative m
  obtain ⟨low, high, _⟩ := shortest_roundsTo tie canonical (nonpos.trans (by decide))
  have value := value_integerParts negative m
  have unit : (2 : ℚ) ^ (integerParts negative m).exponent ≤ 1 :=
    zpow_le_one_of_nonpos₀ one_le_two nonpos
  have gap := mul_le_mul_of_nonneg_right
    (lowerGap_le (integerParts negative m).significand (integerParts negative m).exponent)
    (by positivity : (0 : ℚ) ≤ 2 ^ (integerParts negative m).exponent)
  rw [Decimal.value, zpow_eq_pow_toNat least] at low high
  rw [sub_mul, value] at low
  rw [add_mul, value] at high
  generalize (shortest tie (integerParts negative m)).exponent.toNat = k at low high ⊢
  generalize (shortest tie (integerParts negative m)).digits = digits at low high ⊢
  -- Both are integers, and they are less than one apart.
  have above : digits * 10 ^ k < m + 1 := by
    exact_mod_cast (by linarith : (digits : ℚ) * 10 ^ k < m + 1)
  have below : m < digits * 10 ^ k + 1 := by
    exact_mod_cast (by linarith : (m : ℚ) < digits * 10 ^ k + 1)
  omega

end Units

section Texts

variable {x : Float} {n : ℤ} {m : ℕ}

private theorem decimalDigits_mul_ten_pow (positive : 0 < m) (k : ℕ) :
    decimalDigits (m * 10 ^ k) = decimalDigits m ++ List.replicate k '0' := by
  induction k with
  | zero => simp
  | succ k ih =>
    have split : m * 10 ^ (k + 1) = 10 * (m * 10 ^ k) + 0 := by ring
    have large : 0 < m * 10 ^ k := by positivity
    rw [split, decimalDigits, ← Nat.toDigits_append_toDigits (by decide) large (by decide),
      ← decimalDigits, ih, List.append_assoc, List.replicate_succ']
    rfl

/-- An integer below `2 ^ 53` in magnitude is written digit by digit. -/
theorem IsInt.text (is : IsInt x n) (small : n.natAbs < 0x20000000000000) :
    text x = integerText n := by
  rw [Number.text, is.isNaN, is.isFinite]
  simp only [Bool.false_eq_true, if_false, Bool.not_true]
  split_ifs with plain
  · rw [is.2]
  · have large : exactLimit ≤ n.natAbs := by
      rw [isPlainInteger, is.1, is.whole, Bool.true_and, decide_eq_true_eq] at plain
      omega
    unfold exactLimit at large
    have held := is.parts_eq (by omega) small
    have least := shortest_exponent_nonneg (m := n.natAbs) .up (decide (n < 0)) (by omega) small
    have value := shortest_value (m := n.natAbs) .up (decide (n < 0)) (by omega) small
    have digits : 0 < (shortest .up (integerParts (decide (n < 0)) n.natAbs)).digits := by
      refine Nat.pos_of_ne_zero fun zero => ?_
      rw [zero, zero_mul] at value
      omega
    have written := decimalDigits_mul_ten_pow digits
      (shortest .up (integerParts (decide (n < 0)) n.natAbs)).exponent.toNat
    rw [value] at written
    rw [positionalText, held, Decimal.positional, if_pos least, integerText]
    simp only [List.isEmpty_nil, if_true, List.append_nil, integerParts, signText, decide_eq_true_eq]
    simp only [integerParts] at written
    rw [← written]
    split_ifs <;> rfl

end Texts

end StackVM.Number
