import Mathlib.Algebra.Order.Field.Power
import Mathlib.Data.Int.Log
import Mathlib.Data.Rat.Floor
import Mathlib.Tactic.Linarith
import Mathlib.Tactic.NormNum
import Mathlib.Tactic.Positivity

/-! # Rounding to the nearest binary number

A mantissa with its round and sticky bits stands for a position between two integers. Shifting and
rounding follow the position, so a rational that lies in the rounding interval of a canonical
`significand · 2 ^ exponent` is rounded to it, whichever exact form the rational came in. Every
positive rational lies in such an interval or is rounded to zero, and a quotient is never rounded up
to an integer that it does not reach.
-/

namespace StackVM.Number

open Float.Model Float.Model.UnpackedFloat

section Powers

variable {b : ℚ} {e : ℤ} {m : ℕ}

theorem zpow_eq_pow_toNat (up : 0 ≤ e) : b ^ e = b ^ e.toNat := by
  rw [← zpow_natCast, Int.toNat_of_nonneg up]

theorem zpow_eq_inv_pow_toNat (down : e ≤ 0) : b ^ e = (b ^ (-e).toNat)⁻¹ := by
  rw [← zpow_natCast, Int.toNat_of_nonneg (by omega), zpow_neg, inv_inv]

theorem le_log2_of_full (full : 0x10000000000000 ≤ m) : 52 ≤ m.log2 :=
  (Nat.le_log2 (by omega)).mpr (le_of_eq_of_le (by norm_num) full)

theorem log2_lt_of_lt (pos : 0 < m) (lt : m < 0x20000000000000) : m.log2 < 53 :=
  (Nat.log2_lt pos.ne').mpr (lt.trans_eq (by norm_num))

end Powers

section Position

variable {em : ExtendedMantissa} {position : ℚ}

/-- The bits of an extended mantissa tell where the position lies above the mantissa. -/
structure Marks (em : ExtendedMantissa) (position : ℚ) : Prop where
  low : (em.mantissa : ℚ) ≤ position
  high : position < em.mantissa + 1
  round : em.roundBit = true ↔ em.mantissa + 1 / 2 ≤ position
  sticky : em.stickyBit = true ↔ position ≠ em.mantissa ∧ position ≠ em.mantissa + 1 / 2

theorem marks_exact (m : ℕ) : Marks (.ofMantissaAndAccuracy m .exact) m := by
  constructor <;> simp [ExtendedMantissa.ofMantissaAndAccuracy]

private theorem Marks.inexact_iff (marks : Marks em position) :
    (em.roundBit || em.stickyBit) = true ↔ position ≠ em.mantissa := by
  rw [Bool.or_eq_true, marks.round, marks.sticky]
  constructor
  · rintro (upper | ⟨inexact, _⟩)
    · intro exact
      linarith
    · exact inexact
  · intro inexact
    by_cases half : position = em.mantissa + 1 / 2
    · exact .inl half.ge
    · exact .inr ⟨inexact, half⟩

private theorem Marks.shiftRightOne (marks : Marks em position) :
    Marks em.shiftRightOne (position / 2) := by
  have inexact := marks.inexact_iff
  have low := marks.low
  have high := marks.high
  have split : (em.mantissa : ℚ) = 2 * (em.mantissa / 2 : ℕ) + (em.mantissa % 2 : ℕ) := by
    exact_mod_cast (Nat.div_add_mod em.mantissa 2).symm
  rcases Nat.mod_two_eq_zero_or_one em.mantissa with even | odd
  · rw [even, Nat.cast_zero, add_zero] at split
    refine ⟨?_, ?_, ?_, ?_⟩ <;> simp only [ExtendedMantissa.shiftRightOne]
    · linarith
    · linarith
    · simp only [even, bne_self_eq_false, Bool.false_eq_true, false_iff, not_le]
      linarith
    · rw [inexact]
      refine ⟨fun differs => ⟨fun same => differs ?_, fun same => ?_⟩,
        fun differs same => differs.1 ?_⟩
      all_goals linarith
  · rw [odd, Nat.cast_one] at split
    refine ⟨?_, ?_, ?_, ?_⟩ <;> simp only [ExtendedMantissa.shiftRightOne]
    · linarith
    · linarith
    · simp only [odd, Nat.one_ne_zero, bne_iff_ne, ne_eq, not_false_eq_true, true_iff]
      linarith
    · rw [inexact]
      refine ⟨fun differs => ⟨fun same => ?_, fun same => differs ?_⟩,
        fun differs same => differs.2 ?_⟩
      all_goals linarith

theorem Marks.shiftRight (marks : Marks em position) (n : ℕ) :
    Marks (em >>> n) (position / 2 ^ n) := by
  change Marks (n.repeat ExtendedMantissa.shiftRightOne em) _
  induction n with
  | zero => simpa [Nat.repeat] using marks
  | succ n ih =>
    rw [Nat.repeat, pow_succ, ← div_div]
    exact ih.shiftRightOne

/-- Rounding takes the nearest integer and, half way between two, the even one. -/
theorem Marks.roundedMantissa {n : ℕ} (marks : Marks em position) (low : (n : ℚ) - 1 / 2 ≤ position)
    (high : position ≤ n + 1 / 2)
    (tie : n % 2 = 1 → (n : ℚ) - 1 / 2 < position ∧ position < n + 1 / 2) :
    em.roundedMantissa = n := by
  obtain ⟨m, round, sticky⟩ := em
  obtain ⟨below, above, upper, inexact⟩ := marks
  simp only at below above upper inexact
  -- The four cases of the bits: on the mantissa, in the lower half, half way, in the upper half.
  cases round <;> cases sticky <;>
    simp only [Bool.false_eq_true, false_iff, true_iff, not_le, not_and_or, not_not]
      at upper inexact <;>
    simp only [ExtendedMantissa.roundedMantissa, ExtendedMantissa.accuracy,
      Accuracy.roundToNearestEven]
  · have exact : position = m := inexact.resolve_right upper.ne
    have left : m < n + 1 := by exact_mod_cast (by linarith : (m : ℚ) < n + 1)
    have right : n < m + 1 := by exact_mod_cast (by linarith : (n : ℚ) < m + 1)
    omega
  · have left : m < n + 1 := by exact_mod_cast (by linarith : (m : ℚ) < n + 1)
    have right : n < m + 1 := by exact_mod_cast (by linarith : (n : ℚ) < m + 1)
    omega
  · have half : position = m + 1 / 2 := inexact.resolve_left (by linarith)
    have left : m ≤ n := by exact_mod_cast (by linarith : (m : ℚ) ≤ n)
    have right : n ≤ m + 1 := by exact_mod_cast (by linarith : (n : ℚ) ≤ m + 1)
    have even : n % 2 = 0 := by
      refine (Nat.mod_two_eq_zero_or_one n).resolve_right fun odd => ?_
      obtain ⟨strictLow, strictHigh⟩ := tie odd
      have left : m < n := by exact_mod_cast (by linarith : (m : ℚ) < n)
      have right : n < m + 1 := by exact_mod_cast (by linarith : (n : ℚ) < m + 1)
      omega
    omega
  · have strict : (m : ℚ) + 1 / 2 < position := lt_of_le_of_ne upper (Ne.symm inexact.2)
    have left : m < n := by exact_mod_cast (by linarith : (m : ℚ) < n)
    have right : n < m + 2 := by exact_mod_cast (by linarith : (n : ℚ) < m + 2)
    omega

end Position

section Rounds

/-- Significand and exponent as a finite number's bits hold them: a full significand, or the least
exponent. -/
structure Canonical (significand : ℕ) (exponent : ℤ) : Prop where
  pos : 0 < significand
  lt : significand < 0x20000000000000
  least_le : -1074 ≤ exponent
  normal : 0x10000000000000 ≤ significand ∨ exponent = -1074

/-- How far down, in units of the last place, rationals round to the number: half way to its lower
neighbour, which is nearer below a power of two. -/
def lowerGap (significand : ℕ) (exponent : ℤ) : ℚ :=
  if significand = 0x10000000000000 ∧ exponent ≠ -1074 then 1 / 4 else 1 / 2

/-- The rational lies in the rounding interval of a number, whose ends belong to it when the
significand is even. -/
structure RoundsTo (q : ℚ) (significand : ℕ) (exponent : ℤ) : Prop where
  low : (significand - lowerGap significand exponent) * 2 ^ exponent ≤ q
  high : q ≤ (significand + 1 / 2) * 2 ^ exponent
  tie : significand % 2 = 1 →
    (significand - lowerGap significand exponent) * 2 ^ exponent < q ∧
      q < (significand + 1 / 2) * 2 ^ exponent

variable {m : ℕ} {e t : ℤ} {accuracy : Accuracy} {position q : ℚ} {significand : ℕ} {exponent : ℤ}

theorem lowerGap_le (significand : ℕ) (exponent : ℤ) : lowerGap significand exponent ≤ 1 / 2 := by
  unfold lowerGap
  split <;> norm_num

theorem RoundsTo.of_lt
    (low : (significand - lowerGap significand exponent) * 2 ^ exponent < q)
    (high : q < (significand + 1 / 2) * 2 ^ exponent) : RoundsTo q significand exponent :=
  ⟨low.le, high.le, fun _ => ⟨low, high⟩⟩

theorem RoundsTo.self (significand : ℕ) (exponent : ℤ) :
    RoundsTo (significand * 2 ^ exponent) significand exponent := by
  have gap : 0 < lowerGap significand exponent := by
    unfold lowerGap
    split <;> norm_num
  refine .of_lt ?_ ?_
  · exact mul_lt_mul_of_pos_right (by linarith) (by positivity)
  · exact mul_lt_mul_of_pos_right (by linarith) (by positivity)

theorem targetExponent_eq (m : ℕ) (e : ℤ) :
    Format.binary64.targetExponent (totalExponent m e) = max ((m.log2 : ℤ) + 1 + e - 53) (-1074) :=
  rfl

private theorem mantissa_ofMantissaAndAccuracy (m : ℕ) (accuracy : Accuracy) :
    (ExtendedMantissa.ofMantissaAndAccuracy m accuracy).mantissa = m := by
  unfold ExtendedMantissa.ofMantissaAndAccuracy
  split <;> rfl

theorem Marks.lt_two_zpow (marks : Marks (.ofMantissaAndAccuracy m accuracy) position) (e : ℤ) :
    position * 2 ^ e < 2 ^ ((m.log2 : ℤ) + 1 + e) := by
  have high := marks.high
  rw [mantissa_ofMantissaAndAccuracy] at high
  have bits : ((m + 1 : ℕ) : ℚ) ≤ 2 ^ (m.log2 + 1) := by exact_mod_cast Nat.lt_log2_self
  rw [zpow_add₀ two_ne_zero, ← Nat.cast_one, ← Nat.cast_add, zpow_natCast]
  push_cast at bits
  exact mul_lt_mul_of_pos_right (high.trans_le bits) (by positivity)

theorem Marks.two_zpow_le (marks : Marks (.ofMantissaAndAccuracy m accuracy) position) (e : ℤ)
    (nonzero : m ≠ 0) : 2 ^ ((m.log2 : ℤ) + e) ≤ position * 2 ^ e := by
  have low := marks.low
  rw [mantissa_ofMantissaAndAccuracy] at low
  have bits : (2 ^ m.log2 : ℚ) ≤ m := by exact_mod_cast Nat.log2_self_le nonzero
  rw [zpow_add₀ two_ne_zero, zpow_natCast]
  exact mul_le_mul_of_nonneg_right (bits.trans low) (by positivity)

theorem RoundsTo.lt_two_zpow (rounds : RoundsTo q significand exponent)
    (canonical : Canonical significand exponent) : q < 2 ^ (53 + exponent) := by
  have bound : (significand : ℚ) + 1 ≤ 0x20000000000000 := by exact_mod_cast canonical.lt
  calc
    q ≤ (significand + 1 / 2) * 2 ^ exponent := rounds.high
    _ < 0x20000000000000 * 2 ^ exponent := by
      apply mul_lt_mul_of_pos_right _ (by positivity)
      linarith
    _ = 2 ^ (53 + exponent) := by rw [zpow_add₀ two_ne_zero]; norm_num

/-- All finite numbers, and what rounds to them, lie below `2 ^ 1024`. -/
theorem RoundsTo.lt_range (rounds : RoundsTo q significand exponent)
    (canonical : Canonical significand exponent) (bounded : exponent ≤ 971) : q < 2 ^ (1024 : ℤ) :=
  (rounds.lt_two_zpow canonical).trans_le (zpow_le_zpow_right₀ one_le_two (by omega))

/-- The exponent to which a rational of the interval is shifted is the number's own, unless the
rational lies below a power of two. -/
theorem target_cases (marks : Marks (.ofMantissaAndAccuracy m accuracy) position)
    (fine : e ≤ Format.binary64.targetExponent (totalExponent m e))
    (canonical : Canonical significand exponent)
    (rounds : RoundsTo (position * 2 ^ e) significand exponent) :
    Format.binary64.targetExponent (totalExponent m e) = exponent ∨
      Format.binary64.targetExponent (totalExponent m e) = exponent - 1 ∧
        significand = 0x10000000000000 ∧ exponent ≠ -1074 ∧ position * 2 ^ e < 2 ^ (52 + exponent) := by
  rw [targetExponent_eq] at fine ⊢
  have above := marks.lt_two_zpow e
  have le : max ((m.log2 : ℤ) + 1 + e - 53) (-1074) ≤ exponent := by
    have least := canonical.least_le
    by_cases zero : m = 0
    · subst zero
      simp only [Nat.log2_zero] at fine ⊢
      omega
    · have bits := (marks.two_zpow_le e zero).trans_lt (rounds.lt_two_zpow canonical)
      rw [zpow_lt_zpow_iff_right₀ one_lt_two] at bits
      omega
  by_cases subnormal : exponent = -1074
  · exact .inl (le.antisymm (subnormal ▸ le_max_right _ _))
  · have normal := canonical.normal.resolve_right subnormal
    have low := rounds.low
    by_cases power : significand = 0x10000000000000
    · have bits : (2 : ℚ) ^ (51 + exponent) < 2 ^ ((m.log2 : ℤ) + 1 + e) := by
        refine lt_of_lt_of_le ?_ (low.trans above.le)
        rw [lowerGap, if_pos ⟨power, subnormal⟩, power, zpow_add₀ two_ne_zero]
        exact mul_lt_mul_of_pos_right (by norm_num) (by positivity)
      rw [zpow_lt_zpow_iff_right₀ one_lt_two] at bits
      by_cases same : max ((m.log2 : ℤ) + 1 + e - 53) (-1074) = exponent
      · exact .inl same
      · refine .inr ⟨by omega, power, subnormal, above.trans_le ?_⟩
        rw [zpow_le_zpow_iff_right₀ one_lt_two]
        omega
    · have bits : (2 : ℚ) ^ (52 + exponent) < 2 ^ ((m.log2 : ℤ) + 1 + e) := by
        refine lt_of_lt_of_le ?_ (low.trans above.le)
        have bound : (0x10000000000000 : ℚ) + 1 ≤ significand := by
          exact_mod_cast lt_of_le_of_ne normal (Ne.symm power)
        rw [lowerGap, if_neg fun narrow => power narrow.1, zpow_add₀ two_ne_zero]
        exact mul_lt_mul_of_pos_right (by norm_num; linarith) (by positivity)
      rw [zpow_lt_zpow_iff_right₀ one_lt_two] at bits
      exact .inl (le.antisymm (by omega))

private theorem shiftToTargetExponent_canonical (canonical : Canonical significand exponent) :
    shiftToTargetExponent .binary64 significand exponent .exact =
      (⟨significand, false, false⟩, exponent) := by
  have target : Format.binary64.targetExponent (totalExponent significand exponent) = exponent := by
    have high := log2_lt_of_lt canonical.pos canonical.lt
    have least := canonical.least_le
    rw [targetExponent_eq]
    rcases canonical.normal with normal | subnormal
    · have low := le_log2_of_full normal
      omega
    · omega
  simp only [shiftToTargetExponent, shiftToExponent, target, sub_self, Int.toNat_zero, Nat.cast_zero,
    add_zero]
  rfl

private theorem shiftToTargetExponent_carry (least : -1074 < exponent) :
    shiftToTargetExponent .binary64 0x20000000000000 (exponent - 1) .exact =
      (⟨0x10000000000000, false, false⟩, exponent) := by
  have bits : Nat.log2 0x20000000000000 = 53 := Nat.log2_two_pow (n := 53)
  have target : Format.binary64.targetExponent (totalExponent 0x20000000000000 (exponent - 1)) =
      exponent := by
    rw [targetExponent_eq, bits]
    omega
  have one : (exponent - (exponent - 1)).toNat = 1 := by omega
  simp only [shiftToTargetExponent, shiftToExponent, target, one, Nat.cast_one, sub_add_cancel]
  rfl

private theorem roundWithAccuracy_eq {first second : ExtendedMantissa} {n : ℕ} (sign : Sign)
    (shifted : shiftToTargetExponent .binary64 m e accuracy = (first, t))
    (rounded : first.roundedMantissa = n)
    (carried : shiftToTargetExponent .binary64 n t .exact = (second, exponent))
    (nonzero : 0 < second.mantissa) :
    roundWithAccuracy .binary64 sign m e accuracy =
      .finite sign second.mantissa exponent nonzero := by
  rw [roundWithAccuracy, shifted]
  dsimp only
  rw [rounded, carried]
  exact dif_neg nonzero.ne'

theorem RoundsTo.nearest (rounds : RoundsTo q significand exponent) :
    (significand : ℚ) - 1 / 2 ≤ q / 2 ^ exponent ∧ q / 2 ^ exponent ≤ significand + 1 / 2 ∧
      (significand % 2 = 1 →
        (significand : ℚ) - 1 / 2 < q / 2 ^ exponent ∧ q / 2 ^ exponent < significand + 1 / 2) := by
  have unit : (0 : ℚ) < 2 ^ exponent := by positivity
  have gap := lowerGap_le significand exponent
  have low := (le_div_iff₀ unit).mpr rounds.low
  refine ⟨by linarith, (div_le_iff₀ unit).mpr rounds.high, fun odd => ?_⟩
  obtain ⟨below, above⟩ := rounds.tie odd
  have low := (lt_div_iff₀ unit).mpr below
  exact ⟨by linarith, (div_lt_iff₀ unit).mpr above⟩

private theorem RoundsTo.nearest_power (rounds : RoundsTo q 0x10000000000000 exponent)
    (normal : exponent ≠ -1074) (less : q < 2 ^ (52 + exponent)) :
    (0x20000000000000 : ℚ) - 1 / 2 ≤ q / 2 ^ (exponent - 1) ∧
      q / 2 ^ (exponent - 1) ≤ 0x20000000000000 + 1 / 2 := by
  have low := rounds.low
  rw [lowerGap, if_pos ⟨rfl, normal⟩] at low
  have half : (2 : ℚ) ^ exponent = 2 * 2 ^ (exponent - 1) := by
    rw [zpow_sub_one₀ two_ne_zero]
    ring
  have unit : (0 : ℚ) < 2 ^ (exponent - 1) := by positivity
  rw [zpow_add₀ two_ne_zero] at less
  rw [half] at low less
  constructor
  · rw [le_div_iff₀ unit]
    norm_num at low ⊢
    linarith
  · rw [div_le_iff₀ unit]
    norm_num at less ⊢
    linarith

/-- The first shift leaves the rational where it is, in units of the target exponent. -/
theorem Marks.shiftToTargetExponent (marks : Marks (.ofMantissaAndAccuracy m accuracy) position)
    (fine : e ≤ Format.binary64.targetExponent (totalExponent m e)) :
    ∃ first, UnpackedFloat.shiftToTargetExponent .binary64 m e accuracy =
        (first, Format.binary64.targetExponent (totalExponent m e)) ∧
      Marks first (position * 2 ^ e / 2 ^ Format.binary64.targetExponent (totalExponent m e)) := by
  generalize target : Format.binary64.targetExponent (totalExponent m e) = t at fine
  refine ⟨ExtendedMantissa.ofMantissaAndAccuracy m accuracy >>> (t - e).toNat, ?_, ?_⟩
  · rw [UnpackedFloat.shiftToTargetExponent, target, shiftToExponent, Prod.mk.injEq]
    exact ⟨rfl, by omega⟩
  · have scale : position * 2 ^ e / 2 ^ t = position / 2 ^ (t - e).toNat := by
      rw [← zpow_natCast, Int.toNat_of_nonneg (sub_nonneg.mpr fine), zpow_sub₀ two_ne_zero]
      field_simp
    exact scale ▸ marks.shiftRight _

/-- A rational in the rounding interval of a number is rounded to it. -/
theorem roundWithAccuracy_of_roundsTo (sign : Sign)
    (marks : Marks (.ofMantissaAndAccuracy m accuracy) position)
    (fine : e ≤ Format.binary64.targetExponent (totalExponent m e))
    (canonical : Canonical significand exponent)
    (rounds : RoundsTo (position * 2 ^ e) significand exponent) :
    roundWithAccuracy .binary64 sign m e accuracy =
      .finite sign significand exponent canonical.pos := by
  have cases := target_cases marks fine canonical rounds
  obtain ⟨first, shifted, moved⟩ := marks.shiftToTargetExponent fine
  generalize Format.binary64.targetExponent (totalExponent m e) = t at cases shifted moved
  rcases cases with rfl | ⟨rfl, rfl, normal, less⟩
  · obtain ⟨low, high, tie⟩ := rounds.nearest
    exact roundWithAccuracy_eq sign shifted (moved.roundedMantissa low high tie)
      (shiftToTargetExponent_canonical canonical) canonical.pos
  · obtain ⟨low, high⟩ := rounds.nearest_power normal less
    have rounded := moved.roundedMantissa (n := 0x20000000000000) (by exact_mod_cast low)
      (by exact_mod_cast high) (by simp)
    exact roundWithAccuracy_eq sign shifted rounded
      (shiftToTargetExponent_carry (lt_of_le_of_ne canonical.least_le (Ne.symm normal))) canonical.pos

/-- What lies at most half of the least number above zero is rounded to zero. -/
theorem roundWithAccuracy_of_tiny (sign : Sign)
    (marks : Marks (.ofMantissaAndAccuracy m accuracy) position)
    (fine : e ≤ Format.binary64.targetExponent (totalExponent m e))
    (tiny : position * 2 ^ e ≤ 2 ^ (-1075 : ℤ)) :
    roundWithAccuracy .binary64 sign m e accuracy = .zero sign := by
  obtain ⟨first, shifted, moved⟩ := marks.shiftToTargetExponent fine
  have target : Format.binary64.targetExponent (totalExponent m e) = -1074 := by
    rw [targetExponent_eq] at fine ⊢
    by_cases zero : m = 0
    · subst zero
      simp only [Nat.log2_zero] at fine ⊢
      omega
    · have bits := (marks.two_zpow_le e zero).trans tiny
      rw [zpow_le_zpow_iff_right₀ one_lt_two] at bits
      omega
  rw [target] at shifted moved
  have half : position * 2 ^ e / 2 ^ (-1074 : ℤ) ≤ 1 / 2 := by
    rw [div_le_iff₀ (by positivity)]
    refine tiny.trans_eq ?_
    rw [show (-1075 : ℤ) = -1074 - 1 by norm_num, zpow_sub_one₀ two_ne_zero]
    ring
  have nonneg : 0 ≤ position * 2 ^ e / 2 ^ (-1074 : ℤ) := by
    have low : 0 ≤ position := le_trans (by positivity) marks.low
    positivity
  generalize position * 2 ^ e / 2 ^ (-1074 : ℤ) = place at moved half nonneg
  have rounded := moved.roundedMantissa (n := 0) (by push_cast; linarith) (by push_cast; linarith)
    fun odd => absurd odd (by decide)
  rw [roundWithAccuracy, shifted]
  dsimp only
  rw [rounded]
  rfl

end Rounds

section Existence

variable {q : ℚ}

/-- The integer nearest to a rational that is not negative, halves going to the even one. -/
theorem exists_nearestEven (nonneg : 0 ≤ q) :
    ∃ n : ℕ, (n : ℚ) - 1 / 2 ≤ q ∧ q ≤ n + 1 / 2 ∧
      (n % 2 = 1 → (n : ℚ) - 1 / 2 < q ∧ q < n + 1 / 2) := by
  have low := Nat.floor_le nonneg
  have high := Nat.lt_floor_add_one q
  generalize ⌊q⌋₊ = m at low high
  rcases lt_trichotomy q (m + 1 / 2) with below | half | above
  · exact ⟨m, by linarith, below.le, fun _ => ⟨by linarith, below⟩⟩
  · rcases Nat.mod_two_eq_zero_or_one m with even | odd
    · exact ⟨m, by linarith, half.le, fun odd => by omega⟩
    · refine ⟨m + 1, ?_, ?_, fun odd => by omega⟩ <;> push_cast <;> linarith
  · refine ⟨m + 1, ?_, ?_, fun _ => ⟨?_, ?_⟩⟩ <;> push_cast <;> linarith

/-- The exponent of the last of 53 places, from the least one on. -/
theorem exists_lastPlace (positive : 0 < q) :
    ∃ e : ℤ, -1074 ≤ e ∧ q < 0x20000000000000 * 2 ^ e ∧
      (e = -1074 ∨ 0x10000000000000 * 2 ^ e ≤ q) := by
  have log_le := Int.zpow_log_le_self one_lt_two positive
  have lt_log := Int.lt_zpow_succ_log_self one_lt_two q
  push_cast at log_le lt_log
  refine ⟨max (Int.log 2 q - 52) (-1074), le_max_right _ _, ?_, ?_⟩
  · calc
      q < 2 ^ (Int.log 2 q + 1) := lt_log
      _ ≤ 2 ^ (53 + max (Int.log 2 q - 52) (-1074)) := zpow_le_zpow_right₀ one_le_two (by omega)
      _ = 0x20000000000000 * 2 ^ max (Int.log 2 q - 52) (-1074) := by
        rw [zpow_add₀ two_ne_zero]
        norm_num
  · refine or_iff_not_imp_left.mpr fun normal => ?_
    calc
      (0x10000000000000 : ℚ) * 2 ^ max (Int.log 2 q - 52) (-1074) =
          2 ^ (52 + max (Int.log 2 q - 52) (-1074)) := by
        rw [zpow_add₀ two_ne_zero]
        norm_num
      _ ≤ 2 ^ Int.log 2 q := zpow_le_zpow_right₀ one_le_two (by omega)
      _ ≤ q := log_le

private theorem RoundsTo.of_nearest {n : ℕ} {e : ℤ} (low : ((n : ℚ) - 1 / 2) * 2 ^ e ≤ q)
    (high : q ≤ (n + 1 / 2) * 2 ^ e)
    (tie : n % 2 = 1 → ((n : ℚ) - 1 / 2) * 2 ^ e < q ∧ q < (n + 1 / 2) * 2 ^ e)
    (full : e = -1074 ∨ 0x10000000000000 * 2 ^ e ≤ q) : RoundsTo q n e := by
  by_cases narrow : n = 0x10000000000000 ∧ e ≠ -1074
  · refine ⟨?_, high, fun odd => by omega⟩
    have unit : (0 : ℚ) < 2 ^ e := by positivity
    have above := full.resolve_left narrow.2
    rw [lowerGap, if_pos narrow, narrow.1]
    push_cast
    linarith
  · have wide : lowerGap n e = 1 / 2 := if_neg narrow
    refine ⟨?_, high, ?_⟩ <;> rw [wide]
    · exact low
    · exact tie

/-- What is nearest to the next power of two rounds to it. -/
theorem RoundsTo.of_carry {e : ℤ} (least : -1074 ≤ e)
    (low : ((0x20000000000000 : ℚ) - 1 / 2) * 2 ^ e ≤ q) (high : q < 0x20000000000000 * 2 ^ e) :
    RoundsTo q 0x10000000000000 (e + 1) := by
  have unit : (0 : ℚ) < 2 ^ e := by positivity
  have next : (2 : ℚ) ^ (e + 1) = 2 * 2 ^ e := by
    rw [zpow_add_one₀ two_ne_zero]
    ring
  refine ⟨?_, ?_, fun odd => absurd odd (by decide)⟩
  · rw [lowerGap, if_pos ⟨rfl, by omega⟩, next]
    push_cast
    linarith
  · rw [next]
    push_cast
    linarith

/-- Every rational above half of the least number rounds to a number. -/
theorem exists_roundsTo (large : 2 ^ (-1075 : ℤ) < q) :
    ∃ significand exponent, Canonical significand exponent ∧ RoundsTo q significand exponent := by
  have positive : 0 < q := lt_trans (by positivity) large
  obtain ⟨e, least, bounded, full⟩ := exists_lastPlace positive
  have unit : (0 : ℚ) < 2 ^ e := by positivity
  obtain ⟨n, low, high, tie⟩ := exists_nearestEven (div_nonneg positive.le unit.le)
  rw [le_div_iff₀ unit] at low
  rw [div_le_iff₀ unit] at high
  rw [lt_div_iff₀ unit, div_lt_iff₀ unit] at tie
  have most : n < 0x20000000000000 + 1 := by
    have less := lt_of_mul_lt_mul_right (low.trans_lt bounded) unit.le
    exact_mod_cast (by linarith : (n : ℚ) < 0x20000000000000 + 1)
  have normal : 0x10000000000000 ≤ n ∨ e = -1074 := full.symm.imp_left fun above => by
    have less := le_of_mul_le_mul_right (above.trans high) unit
    exact Nat.lt_succ_iff.mp (by exact_mod_cast (by linarith : (0x10000000000000 : ℚ) < n + 1))
  have some : 0 < n := by
    -- What rounds to zero lies at most half of the least number above it.
    refine Nat.pos_of_ne_zero fun zero => absurd large (not_lt.mpr ?_)
    obtain rfl : e = -1074 := normal.resolve_left (by omega)
    rw [zero, Nat.cast_zero, zero_add] at high
    refine high.trans_eq ?_
    rw [show (-1075 : ℤ) = -1074 - 1 by norm_num, zpow_sub_one₀ two_ne_zero]
    ring
  rcases (Nat.lt_succ_iff.mp most).lt_or_eq with less | rfl
  · exact ⟨n, e, ⟨some, less, least, normal⟩, .of_nearest low high tie full⟩
  · exact ⟨0x10000000000000, e + 1, ⟨by decide, by decide, by omega, .inl le_rfl⟩,
      .of_carry least (by exact_mod_cast low) bounded⟩

end Existence

section Neighbours

variable {q : ℚ} {significand j k : ℕ} {exponent : ℤ}

/-- The lower end of the rounding interval of a full significand. -/
theorem lt_sub_lowerGap (full : 0x10000000000000 ≤ significand) (normal : exponent ≠ -1074) :
    (0x10000000000000 : ℚ) - 1 / 2 < significand - lowerGap significand exponent := by
  unfold lowerGap
  split_ifs with narrow
  · rw [narrow.1]
    norm_num
  · have more : 0x10000000000000 < significand :=
      lt_of_le_of_ne full fun same => narrow ⟨same.symm, normal⟩
    have next : (0x10000000000000 : ℚ) + 1 ≤ significand := by exact_mod_cast more
    linarith

theorem RoundsTo.exponent_lt (rounds : RoundsTo q significand exponent)
    (canonical : Canonical significand exponent) {k : ℤ} (least : -1074 < k)
    (bounded : q ≤ (0x10000000000000 - 1 / 2) * 2 ^ k) : exponent < k := by
  by_contra above
  have above := not_lt.mp above
  have normal : exponent ≠ -1074 := by omega
  have lowest := lt_sub_lowerGap (canonical.normal.resolve_right normal) normal
  have unit : (2 : ℚ) ^ k ≤ 2 ^ exponent := zpow_le_zpow_right₀ one_le_two above
  refine absurd bounded (not_le.mpr ?_)
  calc
    ((0x10000000000000 : ℚ) - 1 / 2) * 2 ^ k ≤ (0x10000000000000 - 1 / 2) * 2 ^ exponent :=
      mul_le_mul_of_nonneg_left unit (by norm_num)
    _ < (significand - lowerGap significand exponent) * 2 ^ exponent :=
      mul_lt_mul_of_pos_right lowest (by positivity)
    _ ≤ q := rounds.low

theorem RoundsTo.exponent_le_range (rounds : RoundsTo q significand exponent)
    (canonical : Canonical significand exponent) (bounded : q < 2 ^ (1000 : ℤ)) :
    exponent ≤ 971 := by
  have above : (2 : ℚ) ^ (1000 : ℤ) ≤ (0x10000000000000 - 1 / 2) * 2 ^ (972 : ℤ) := by
    rw [show (1000 : ℤ) = 28 + 972 by norm_num, zpow_add₀ two_ne_zero]
    exact mul_le_mul_of_nonneg_right (by norm_num) (by positivity)
  exact Int.lt_add_one_iff.mp (rounds.exponent_lt canonical (by norm_num) (bounded.le.trans above))

theorem RoundsTo.exponent_nonpos (rounds : RoundsTo q significand exponent)
    (canonical : Canonical significand exponent) (bounded : q < 2 ^ (51 : ℤ)) : exponent ≤ 0 := by
  have above : (2 : ℚ) ^ (51 : ℤ) ≤ (0x10000000000000 - 1 / 2) * 2 ^ (1 : ℤ) := by norm_num
  exact Int.lt_add_one_iff.mp (rounds.exponent_lt canonical (by norm_num) (bounded.le.trans above))

/-- A number is at most half a last place away from what is rounded to it. -/
theorem RoundsTo.abs_sub_le (rounds : RoundsTo q significand exponent) :
    |q - significand * 2 ^ exponent| ≤ 2 ^ exponent / 2 := by
  have unit : (0 : ℚ) < 2 ^ exponent := by positivity
  have gap := mul_le_mul_of_nonneg_right (lowerGap_le significand exponent) unit.le
  have low := rounds.low
  have high := rounds.high
  rw [abs_le]
  constructor <;> linarith

/-- What is rounded to less than a multiple of its last place lies below it. -/
theorem RoundsTo.lt_grid (rounds : RoundsTo q significand exponent) (less : significand < j) :
    q < j * 2 ^ exponent := by
  have next : (significand : ℚ) + 1 ≤ j := by exact_mod_cast less
  exact rounds.high.trans_lt (mul_lt_mul_of_pos_right (by linarith) (by positivity))

/-- What lies below a multiple of its last place is rounded to it at most. -/
theorem RoundsTo.le_grid (rounds : RoundsTo q significand exponent) (below : q < j * 2 ^ exponent) :
    significand ≤ j := by
  have gap := lowerGap_le significand exponent
  have close := lt_of_mul_lt_mul_right (rounds.low.trans_lt below) (by positivity)
  have less : (significand : ℚ) < j + 1 := by linarith
  exact Nat.lt_succ_iff.mp (by exact_mod_cast less)

theorem natCast_eq_mul_zpow (k : ℕ) (whole : exponent ≤ 0) :
    ∃ j : ℕ, (k : ℚ) = j * 2 ^ exponent := by
  refine ⟨k * 2 ^ (-exponent).toNat, ?_⟩
  rw [zpow_eq_inv_pow_toNat whole]
  push_cast
  rw [mul_inv_cancel_right₀ (by positivity)]

theorem RoundsTo.lt_natCast (rounds : RoundsTo q significand exponent) (whole : exponent ≤ 0)
    (below : (significand : ℚ) * 2 ^ exponent < k) : q < k := by
  obtain ⟨j, same⟩ := natCast_eq_mul_zpow k whole
  rw [same] at below ⊢
  exact rounds.lt_grid (by exact_mod_cast lt_of_mul_lt_mul_right below (by positivity))

theorem RoundsTo.le_natCast (rounds : RoundsTo q significand exponent) (whole : exponent ≤ 0)
    (below : q < k) : (significand : ℚ) * 2 ^ exponent ≤ k := by
  obtain ⟨j, same⟩ := natCast_eq_mul_zpow k whole
  rw [same] at below ⊢
  exact mul_le_mul_of_nonneg_right (by exact_mod_cast rounds.le_grid below) (by positivity)

/-- A quotient below a positive integer is not rounded to it: the dividend lies at least one unit of
its last place below the product, which is more than half a unit of the quotient. -/
theorem RoundsTo.ne_natCast {m d k : ℕ} {e : ℤ} (divisor : 0 < d) (small : m < 0x20000000000000)
    (whole : e ≤ 0) (canonical : Canonical significand exponent) (normal : exponent ≠ -1074)
    (rounds : RoundsTo (m * 2 ^ e / d) significand exponent) (below : (m : ℚ) * 2 ^ e / d < k) :
    (significand : ℚ) * 2 ^ exponent ≠ k := by
  intro reached
  have unit : (0 : ℚ) < 2 ^ e := by positivity
  have unit' : (0 : ℚ) < 2 ^ exponent := by positivity
  have positive : (0 : ℚ) < d := by exact_mod_cast divisor
  have low := rounds.low
  rw [div_lt_iff₀ positive] at below
  rw [le_div_iff₀ positive] at low
  -- The dividend is at least one unit of its last place below the product.
  obtain ⟨j, same⟩ := natCast_eq_mul_zpow (k * d) whole
  push_cast at same
  rw [same] at below
  have next : (m : ℚ) + 1 ≤ j := by exact_mod_cast lt_of_mul_lt_mul_right below unit.le
  have apart : ((m : ℚ) + 1) * 2 ^ e ≤ k * d := same ▸ mul_le_mul_of_nonneg_right next unit.le
  have gap := lowerGap_le significand exponent
  have wide : 2 * 2 ^ e ≤ 2 ^ exponent * (d : ℚ) := by
    have half : 2 ^ exponent * (d : ℚ) * lowerGap significand exponent ≤
        2 ^ exponent * d * (1 / 2) :=
      mul_le_mul_of_nonneg_left gap (by positivity)
    rw [← reached] at apart
    linarith
  have lowest := lt_sub_lowerGap (canonical.normal.resolve_right normal) normal
  have most : (m : ℚ) + 1 ≤ 0x20000000000000 := by exact_mod_cast small
  have top := mul_le_mul_of_nonneg_right most unit.le
  have bottom : ((0x10000000000000 : ℚ) - 1 / 2) * (2 ^ exponent * d) <
      (significand - lowerGap significand exponent) * (2 ^ exponent * d) :=
    mul_lt_mul_of_pos_right lowest (by positivity)
  have scaled := mul_le_mul_of_nonneg_left wide (by norm_num : (0 : ℚ) ≤ 0x10000000000000 - 1 / 2)
  linarith

end Neighbours

end StackVM.Number
