import StackVM.Number.Text
import StackVM.Proofs.Number.Nearest

/-! # The shortest decimal rounds back

The tests of `Interval` are comparisons of rationals: `contains` holds for the integers of the
scaled rounding interval. Seventeen digits make a grid finer than that interval, so the search finds
a decimal, and every decimal that it finds lies inside.
-/

namespace StackVM.Number

/-- The value of a decimal. -/
def Decimal.value (d : Decimal) : ℚ := d.digits * 10 ^ d.exponent

namespace Interval

variable {i : Interval} {tie : Tie} {n : ℕ} {q : ℚ}

/-- The rational at the centre. -/
def centre (i : Interval) : ℚ := i.value / i.denominator

/-- The rational lies in the interval. -/
def Holds (i : Interval) (q : ℚ) : Prop :=
  (i.low : ℚ) / i.denominator ≤ q ∧ q ≤ i.high / i.denominator ∧
    (i.closed = false → (i.low : ℚ) / i.denominator < q ∧ q < i.high / i.denominator)

theorem contains_iff (positive : 0 < i.denominator) : i.contains n = true ↔ i.Holds n := by
  have unit : (0 : ℚ) < i.denominator := by exact_mod_cast positive
  rw [contains, Holds, div_le_iff₀ unit, le_div_iff₀ unit, div_lt_iff₀ unit, lt_div_iff₀ unit]
  norm_cast
  cases i.closed with
  | true => simp
  | false =>
    simp only [Bool.false_eq_true, if_false, Bool.and_eq_true, decide_eq_true_eq, forall_const]
    omega

theorem denominator_shift (positive : 0 < i.denominator) (e : ℤ) : 0 < (i.shift e).denominator := by
  unfold shift
  split
  · exact positive
  · exact Nat.mul_pos positive (Nat.pow_pos (by decide))

theorem shift_ends (i : Interval) (e : ℤ) :
    ((i.shift e).low : ℚ) / (i.shift e).denominator = i.low / i.denominator / 10 ^ e ∧
    (i.shift e).centre = i.centre / 10 ^ e ∧
    ((i.shift e).high : ℚ) / (i.shift e).denominator = i.high / i.denominator / 10 ^ e ∧
    (i.shift e).closed = i.closed := by
  unfold centre shift
  split_ifs with down
  · have scale : (10 : ℚ) ^ e = ((Nat.pow 10 (-e).toNat : ℕ) : ℚ)⁻¹ := by
      rw [zpow_eq_inv_pow_toNat (by omega), Nat.pow_eq, Nat.cast_pow, Nat.cast_ofNat]
    rw [scale]
    simp only [div_inv_eq_mul, Nat.cast_mul, mul_div_right_comm, true_and]
  · have scale : (10 : ℚ) ^ e = (Nat.pow 10 e.toNat : ℕ) := by
      rw [zpow_eq_pow_toNat (by omega), Nat.pow_eq, Nat.cast_pow, Nat.cast_ofNat]
    rw [scale]
    simp only [Nat.cast_mul, div_div, true_and]

theorem holds_shift_iff (e : ℤ) : (i.shift e).Holds q ↔ i.Holds (q * 10 ^ e) := by
  have unit : (0 : ℚ) < 10 ^ e := by positivity
  obtain ⟨low, _, high, closed⟩ := i.shift_ends e
  rw [Holds, low, high, closed, Holds, div_le_iff₀ unit, le_div_iff₀ unit, div_lt_iff₀ unit,
    lt_div_iff₀ unit]

theorem div_le_centre (i : Interval) : ((i.value / i.denominator : ℕ) : ℚ) ≤ i.centre :=
  Nat.cast_div_le

theorem centre_lt (positive : 0 < i.denominator) :
    i.centre < ((i.value / i.denominator : ℕ) : ℚ) + 1 := by
  rw [centre, div_lt_iff₀ (by exact_mod_cast positive)]
  exact_mod_cast (Nat.div_lt_iff_lt_mul positive).mp (Nat.lt_succ_self _)

private theorem nearest_cases (i : Interval) (tie : Tie) :
    i.nearest tie = i.value / i.denominator ∨ i.nearest tie = i.value / i.denominator + 1 := by
  unfold nearest
  cases tie <;> simp only <;> split_ifs <;> simp

private theorem pick_eq_some (found : i.pick tie = some n) : i.contains n = true := by
  simp only [pick] at found
  split at found
  case h_1 below above =>
    cases found
    rcases nearest_cases i tie with same | same
    · exact same ▸ below
    · exact same ▸ above
  case h_2 below _ =>
    cases found
    exact below
  case h_3 _ above =>
    cases found
    exact above
  case h_4 => cases found

theorem pick_ne_none (found : i.contains (i.value / i.denominator) = true ∨
    i.contains (i.value / i.denominator + 1) = true) : i.pick tie ≠ none := by
  simp only [pick]
  split <;> simp_all

end Interval

section Search

variable {i : Interval} {tie : Tie} {d : Decimal} {fuel : ℕ} {e : ℤ}

private theorem searchGrid_eq_some (found : searchGrid tie i fuel e = some d) :
    (i.shift d.exponent).contains d.digits = true := by
  induction fuel generalizing e with
  | zero => cases found
  | succ fuel ih =>
    rw [searchGrid] at found
    split at found
    case h_1 digits picked =>
      cases found
      exact Interval.pick_eq_some picked
    case h_2 => exact ih found

private theorem searchGrid_ne_none {k : ℕ} (less : k < fuel)
    (found : (i.shift (e - k)).pick tie ≠ none) :
    searchGrid tie i fuel e ≠ none := by
  induction fuel generalizing e k with
  | zero => omega
  | succ fuel ih =>
    rw [searchGrid]
    split
    · simp
    case h_2 missed =>
      cases k with
      | zero => simp [missed] at found
      | succ k =>
        refine ih (Nat.lt_of_succ_lt_succ less) (k := k) ?_
        rwa [sub_sub, add_comm, ← Nat.cast_succ]

private theorem value_strip (fuel : ℕ) (d : Decimal) : (d.strip fuel).value = d.value := by
  induction fuel generalizing d with
  | zero => rfl
  | succ fuel ih =>
    rw [Decimal.strip]
    split_ifs with trailing
    · rw [ih]
      have whole : d.digits = 10 * (d.digits / 10) := by
        have : d.digits % 10 = 0 := by simpa using trailing
        omega
      have cast : (d.digits : ℚ) = 10 * (d.digits / 10 : ℕ) := by exact_mod_cast whole
      rw [Decimal.value, Decimal.value, cast, zpow_add_one₀ (by norm_num)]
      ring
    · rfl

private theorem raiseExponent_le (positive : 0 < i.denominator) (low : 10 ^ e ≤ i.centre) :
    10 ^ raiseExponent i fuel e ≤ i.centre := by
  induction fuel generalizing e with
  | zero => exact low
  | succ fuel ih =>
    rw [raiseExponent]
    split_ifs with fits
    · apply ih
      have unit : (0 : ℚ) < (i.shift (e + 1)).denominator := by
        exact_mod_cast i.denominator_shift positive _
      have one : 1 ≤ (i.shift (e + 1)).centre := by
        rw [Interval.centre, one_le_div unit]
        exact_mod_cast fits
      rwa [(i.shift_ends _).2.1, one_le_div (by positivity)] at one
    · exact low

end Search

section Leading

/-- A power of ten below a power of two, from a bound on the logarithm of two. -/
theorem ten_zpow_le_two_zpow {s t : ℕ} (positive : 0 < t) (upper : (10 : ℚ) ^ s ≤ 2 ^ (t + 1))
    (lower : (2 : ℚ) ^ t ≤ 10 ^ s) {b : ℤ} (small : b ≤ t) :
    (10 : ℚ) ^ (b * s / t - 1) ≤ 2 ^ b := by
  have floor : b * s / t * t ≤ b * s := Int.ediv_mul_le _ (by omega)
  have power : (10 : ℚ) ^ (b * s - t) ≤ (2 ^ t) ^ b := by
    rw [zpow_sub₀ (by norm_num), mul_comm, zpow_mul, zpow_natCast, zpow_natCast,
      div_le_iff₀ (by positivity)]
    rcases Int.eq_nat_or_neg b with ⟨n, rfl | rfl⟩
    · rw [zpow_natCast, zpow_natCast]
      calc
        ((10 : ℚ) ^ s) ^ n ≤ (2 ^ (t + 1)) ^ n := pow_le_pow_left₀ (by positivity) upper n
        _ = (2 ^ t) ^ n * 2 ^ n := by rw [pow_succ, mul_pow]
        _ ≤ (2 ^ t) ^ n * 10 ^ t := by
          refine mul_le_mul_of_nonneg_left ?_ (by positivity)
          calc
            (2 : ℚ) ^ n ≤ 2 ^ t := pow_le_pow_right₀ one_le_two (by omega)
            _ ≤ 10 ^ t := pow_le_pow_left₀ two_pos.le (by norm_num) t
    · rw [zpow_neg, zpow_neg, zpow_natCast, zpow_natCast]
      calc
        (((10 : ℚ) ^ s) ^ n)⁻¹ ≤ ((2 ^ t) ^ n)⁻¹ :=
          inv_anti₀ (by positivity) (pow_le_pow_left₀ (by positivity) lower n)
        _ ≤ ((2 ^ t) ^ n)⁻¹ * 10 ^ t :=
          le_mul_of_one_le_right (by positivity) (one_le_pow₀ (by norm_num))
  rw [← pow_le_pow_iff_left₀ (by positivity) (by positivity) positive.ne', ← zpow_natCast,
    ← zpow_mul]
  calc
    (10 : ℚ) ^ ((b * s / t - 1) * t) ≤ 10 ^ (b * s - t) :=
      zpow_le_zpow_right₀ (by norm_num) (by linarith)
    _ ≤ (2 ^ t) ^ b := power
    _ = (2 ^ b) ^ t := by rw [← zpow_natCast, ← zpow_natCast, ← zpow_mul, ← zpow_mul, mul_comm]

private theorem ten_pow_30103_bounds : 2 ^ 100000 ≤ 10 ^ 30103 ∧ 10 ^ 30103 ≤ 2 ^ (100000 + 1) := by
  decide +kernel

variable {i : Interval}

private theorem two_zpow_le_centre (positive : 0 < i.denominator) (nonzero : i.value ≠ 0) :
    (2 : ℚ) ^ ((i.value.log2 : ℤ) - i.denominator.log2 - 1) ≤ i.centre := by
  have unit : (0 : ℚ) < i.denominator := by exact_mod_cast positive
  have above : (2 ^ i.value.log2 : ℚ) ≤ i.value := by exact_mod_cast Nat.log2_self_le nonzero
  have below : (i.denominator : ℚ) ≤ 2 ^ (i.denominator.log2 + 1) := by
    exact_mod_cast Nat.lt_log2_self.le
  rw [sub_sub, ← Nat.cast_succ, zpow_sub₀ two_ne_zero, zpow_natCast, zpow_natCast]
  exact div_le_div₀ (by positivity) above unit below

private theorem leadingExponent_le (positive : 0 < i.denominator) (nonzero : i.value ≠ 0)
    (high : i.centre < 2 ^ (1024 : ℤ)) : 10 ^ leadingExponent i ≤ i.centre := by
  have binary := two_zpow_le_centre positive nonzero
  have small := (zpow_lt_zpow_iff_right₀ one_lt_two).mp (binary.trans_lt high)
  refine raiseExponent_le positive (le_trans ?_ binary)
  exact ten_zpow_le_two_zpow (by decide) (by exact_mod_cast ten_pow_30103_bounds.2)
    (by exact_mod_cast ten_pow_30103_bounds.1) (small.le.trans (by decide))

end Leading

section Parts

variable {p : Parts} {tie : Tie}

theorem ofParts_ends (positive : 0 < p.significand) :
    0 < (Interval.ofParts p).denominator ∧
    ((Interval.ofParts p).low : ℚ) / (Interval.ofParts p).denominator =
      (p.significand - lowerGap p.significand p.exponent) * 2 ^ p.exponent ∧
    (Interval.ofParts p).centre = p.significand * 2 ^ p.exponent ∧
    ((Interval.ofParts p).high : ℚ) / (Interval.ofParts p).denominator =
      (p.significand + 1 / 2) * 2 ^ p.exponent := by
  -- Every end is a number of quarters of the last place.
  have quarters (n : ℕ) : ((if p.exponent < 0 then n else n <<< p.exponent.toNat : ℕ) : ℚ) /
      (if p.exponent < 0 then 4 <<< (-p.exponent).toNat else 4 : ℕ) = n / 4 * 2 ^ p.exponent := by
    split_ifs with below
    · rw [zpow_eq_inv_pow_toNat below.le, Nat.shiftLeft_eq]
      push_cast
      field_simp
    · rw [zpow_eq_pow_toNat (not_lt.mp below), Nat.shiftLeft_eq]
      push_cast
      ring
  have gap : ((4 * p.significand - if p.significand == 0x10000000000000 && p.exponent != -1074 then 1
      else 2 : ℕ) : ℚ) = 4 * (p.significand - lowerGap p.significand p.exponent) := by
    have narrow : (p.significand == 0x10000000000000 && p.exponent != -1074) = true ↔
        p.significand = 0x10000000000000 ∧ p.exponent ≠ -1074 := by simp
    simp only [lowerGap, narrow]
    split_ifs
    · rw [Nat.cast_sub (by omega)]
      push_cast
      ring
    · rw [Nat.cast_sub (by omega)]
      push_cast
      ring
  refine ⟨?_, (quarters _).trans ?_, (quarters _).trans ?_, (quarters _).trans ?_⟩
  · simp only [Interval.ofParts]
    split_ifs
    · simp [Nat.shiftLeft_eq]
    · decide
  · rw [gap]
    ring
  · push_cast
    ring
  · push_cast
    ring

theorem holds_ofParts_iff (positive : 0 < p.significand) {q : ℚ} :
    (Interval.ofParts p).Holds q ↔ RoundsTo q p.significand p.exponent := by
  obtain ⟨_, low, _, high⟩ := ofParts_ends positive
  have closed : (Interval.ofParts p).closed = false ↔ p.significand % 2 = 1 := by
    simp [Interval.ofParts]
  rw [Interval.Holds, low, high, closed]
  exact ⟨fun ⟨above, below, strict⟩ => ⟨above, below, strict⟩,
    fun ⟨above, below, strict⟩ => ⟨above, below, strict⟩⟩

/-- The grid of seventeen digits is finer than the rounding interval. -/
theorem grid_lt_gap (canonical : Canonical p.significand p.exponent) {e : ℤ}
    (fine : 10 ^ (e + 16) ≤ (p.significand : ℚ) * 2 ^ p.exponent) :
    (10 : ℚ) ^ e < 2 * lowerGap p.significand p.exponent * 2 ^ p.exponent := by
  have unit : (0 : ℚ) < 2 ^ p.exponent := by positivity
  rw [zpow_add₀ (by norm_num)] at fine
  norm_num at fine
  unfold lowerGap
  split_ifs with narrow
  · rw [narrow.1] at fine
    norm_num at fine ⊢
    linarith
  · have bound : (p.significand : ℚ) * 2 ^ p.exponent ≤ 0x20000000000000 * 2 ^ p.exponent :=
      mul_le_mul_of_nonneg_right (by exact_mod_cast canonical.lt.le) unit.le
    norm_num at bound ⊢
    linarith

/-- On a grid of seventeen digits one of the two neighbours of the value lies in its interval. -/
theorem pick_ofParts_ne_none (canonical : Canonical p.significand p.exponent) {e : ℤ}
    (fine : 10 ^ (e + 16) ≤ (p.significand : ℚ) * 2 ^ p.exponent) :
    ((Interval.ofParts p).shift e).pick tie ≠ none := by
  obtain ⟨positive, _, centre, _⟩ := ofParts_ends canonical.pos
  have shifted := (Interval.ofParts p).denominator_shift positive e
  have step : (0 : ℚ) < 10 ^ e := by positivity
  have unit : (0 : ℚ) < 2 ^ p.exponent := by positivity
  have below := ((Interval.ofParts p).shift e).div_le_centre
  have above := Interval.centre_lt shifted
  rw [((Interval.ofParts p).shift_ends e).2.1, centre, le_div_iff₀ step] at below
  rw [((Interval.ofParts p).shift_ends e).2.1, centre, div_lt_iff₀ step] at above
  have grid := grid_lt_gap canonical fine
  have gap := mul_le_mul_of_nonneg_right (lowerGap_le p.significand p.exponent) unit.le
  apply Interval.pick_ne_none
  rw [Interval.contains_iff shifted, Interval.contains_iff shifted, Interval.holds_shift_iff,
    Interval.holds_shift_iff, holds_ofParts_iff canonical.pos, holds_ofParts_iff canonical.pos]
  generalize ((Interval.ofParts p).shift e).value / ((Interval.ofParts p).shift e).denominator = n at *
  push_cast
  -- The nearer neighbour is at most half a step away, which is less than the gap.
  by_cases near : (p.significand : ℚ) * 2 ^ p.exponent - n * 10 ^ e ≤ 10 ^ e / 2
  · left
    refine .of_lt ?_ ?_ <;> linarith
  · right
    refine .of_lt ?_ ?_ <;> linarith

theorem leadingExponent_ofParts_le (canonical : Canonical p.significand p.exponent)
    (bounded : p.exponent ≤ 971) :
    10 ^ leadingExponent (Interval.ofParts p) ≤ (p.significand : ℚ) * 2 ^ p.exponent := by
  obtain ⟨positive, _, centre, _⟩ := ofParts_ends canonical.pos
  have nonzero : (Interval.ofParts p).value ≠ 0 := by
    intro zero
    rw [Interval.centre, zero, Nat.cast_zero, zero_div] at centre
    have := canonical.pos
    exact absurd centre (by positivity)
  have high : (Interval.ofParts p).centre < 2 ^ (1024 : ℤ) := by
    rw [centre]
    exact (RoundsTo.self _ _).lt_range canonical bounded
  have leading := leadingExponent_le positive nonzero high
  rwa [centre] at leading

/-- The shortest decimal rounds back. -/
theorem shortest_roundsTo (tie : Tie) (canonical : Canonical p.significand p.exponent)
    (bounded : p.exponent ≤ 971) :
    RoundsTo (shortest tie p).value p.significand p.exponent := by
  have positive := (ofParts_ends canonical.pos).1
  have leading := leadingExponent_ofParts_le canonical bounded
  have found : searchGrid tie (Interval.ofParts p) 17 (leadingExponent (Interval.ofParts p)) ≠ none :=
    searchGrid_ne_none (k := 16) (by decide)
      (pick_ofParts_ne_none canonical (by simpa using leading))
  obtain ⟨d, picked⟩ := Option.ne_none_iff_exists'.mp found
  have inside := searchGrid_eq_some picked
  rw [Interval.contains_iff ((Interval.ofParts p).denominator_shift positive _),
    Interval.holds_shift_iff, holds_ofParts_iff canonical.pos] at inside
  have none : (p.significand == 0) = false := by simpa using canonical.pos.ne'
  rw [shortest, none]
  simp only [Bool.false_eq_true, if_false, picked, Option.getD_some, value_strip]
  exact inside

end Parts

section Numbers

variable {x : Float} {tie : Tie}

private theorem shortest_zero {p : Parts} (zero : p.significand = 0) : shortest tie p = ⟨0, 0⟩ := by
  simp [shortest, zero]

/-- Whatever has the value of a number's shortest decimal is read as that number. -/
theorem nearestDecimal_of_shortest (finite : isFinite x = true) {digits : ℕ} {e : ℤ}
    (value : (digits : ℚ) * 10 ^ e = (shortest tie (parts x)).value) :
    nearestDecimal digits e = (magnitude x).float := by
  by_cases zero : (parts x).significand = 0
  · have none : digits = 0 := by
      rw [shortest_zero zero, Decimal.value, Nat.cast_zero, zero_mul, mul_eq_zero] at value
      exact_mod_cast value.resolve_right (by positivity)
    have packed : (magnitude x).unpacked = .zero .positive := dif_pos zero
    rw [none, Parts.float, packed]
    rfl
  · obtain ⟨canonical, bounded⟩ := canonical_parts finite zero
    exact nearestDecimal_of_roundsTo canonical bounded
      (value ▸ shortest_roundsTo tie canonical bounded)

/-- The shortest decimal has its leading digit within the range of the numbers, and zero has no
exponent. -/
theorem shortest_bounds (tie : Tie) (finite : isFinite x = true) :
    ((shortest tie (parts x)).digits = 0 → (shortest tie (parts x)).exponent ≤ 0) ∧
    -330 ≤ (shortest tie (parts x)).exponent +
      (decimalDigits (shortest tie (parts x)).digits).length ∧
    (shortest tie (parts x)).exponent +
      (decimalDigits (shortest tie (parts x)).digits).length ≤ 310 := by
  by_cases zero : (parts x).significand = 0
  · rw [shortest_zero zero]
    simp [decimalDigits]
  · obtain ⟨canonical, bounded⟩ := canonical_parts finite zero
    have rounds := shortest_roundsTo tie canonical bounded
    have positive := rounds.digits_pos canonical
    exact ⟨fun none => absurd none positive.ne',
      size_bounds positive (rounds.two_zpow_le canonical) (rounds.lt_range canonical bounded)⟩

end Numbers

end StackVM.Number
