import StackVM.Number.Reading
import StackVM.Proofs.Number.Parts

/-! # The number nearest to a decimal

Multiplying and dividing by a power of ten lose nothing before the one rounding at the end, so a
decimal that lies in the rounding interval of a number is read as that number.
-/

namespace StackVM.Number

open Float.Model Float.Model.UnpackedFloat

variable {q : ℚ} {significand : ℕ} {exponent : ℤ} {m₁ m₂ : ℕ} {e₁ e₂ : ℤ}

section Operations

/-- The product of two numbers is rounded once, if the first significand is full. -/
theorem mul_of_roundsTo (sign₁ sign₂ : Sign) {pos₁ : 0 < m₁} {pos₂ : 0 < m₂}
    (full : 0x10000000000000 ≤ m₁) (canonical : Canonical significand exponent)
    (rounds : RoundsTo (m₁ * 2 ^ e₁ * (m₂ * 2 ^ e₂)) significand exponent) :
    UnpackedFloat.mul .binary64 (.finite sign₁ m₁ e₁ pos₁) (.finite sign₂ m₂ e₂ pos₂) =
      .finite (sign₁ * sign₂) significand exponent canonical.pos := by
  have exact : ((m₁ * m₂ : ℕ) : ℚ) * 2 ^ (e₁ + e₂) = m₁ * 2 ^ e₁ * (m₂ * 2 ^ e₂) := by
    rw [zpow_add₀ two_ne_zero]
    push_cast
    ring
  rw [← exact] at rounds
  refine roundWithAccuracy_of_roundsTo _ (marks_exact _) ?_ canonical rounds
  have product : 2 ^ 52 ≤ m₁ * m₂ := by
    calc
      2 ^ 52 ≤ m₁ := le_of_eq_of_le (by norm_num) full
      _ ≤ m₁ * m₂ := Nat.le_mul_of_pos_right _ pos₂
  have bits := (Nat.le_log2 (Nat.mul_pos pos₁ pos₂).ne').mpr product
  rw [targetExponent_eq]
  omega

private theorem marks_inexact (whole : ℕ) {part : ℚ} {order : Ordering} (some : 0 < part)
    (less : part < 1)
    (lower : order = .lt ↔ part < 1 / 2) (middle : order = .eq ↔ part = 1 / 2) :
    Marks (.ofMantissaAndAccuracy whole (.inexact order)) (whole + part) := by
  have differs : (whole : ℚ) + part ≠ whole := by linarith
  cases order with
  | lt =>
    have half : part < 1 / 2 := lower.mp rfl
    refine ⟨?_, ?_, ?_, ?_⟩ <;> simp only [ExtendedMantissa.ofMantissaAndAccuracy]
    · linarith
    · linarith
    · simpa using half
    · simpa [differs] using half.ne
  | eq =>
    have half : part = 1 / 2 := middle.mp rfl
    refine ⟨?_, ?_, ?_, ?_⟩ <;> simp only [ExtendedMantissa.ofMantissaAndAccuracy]
    · linarith
    · linarith
    · simpa using half.ge
    · simpa [differs] using half
  | gt =>
    have above : 1 / 2 ≤ part := not_lt.mp fun half => absurd (lower.mpr half) (by decide)
    have half : part ≠ 1 / 2 := fun half => absurd (middle.mpr half) (by decide)
    refine ⟨?_, ?_, ?_, ?_⟩ <;> simp only [ExtendedMantissa.ofMantissaAndAccuracy]
    · linarith
    · linarith
    · simpa using above
    · simpa [differs] using half

private theorem marks_fraction (num : ℕ) {den : ℕ} (positive : 0 < den) :
    Marks (.ofMantissaAndAccuracy (num / den) (accuracyOfFraction (num % den) den))
      ((num : ℚ) / den) := by
  have unit : (0 : ℚ) < den := by exact_mod_cast positive
  have split : (num : ℚ) / den = (num / den : ℕ) + ((num % den : ℕ) : ℚ) / den := by
    have whole : (num : ℚ) = den * (num / den : ℕ) + (num % den : ℕ) := by
      exact_mod_cast (Nat.div_add_mod num den).symm
    rw [div_eq_iff unit.ne', add_mul, div_mul_cancel₀ _ unit.ne', whole]
    ring
  rw [split, accuracyOfFraction]
  split_ifs with none
  · simpa [none] using marks_exact (num / den)
  · refine marks_inexact _ ?_ ?_ ?_ ?_
    · have : 0 < num % den := Nat.pos_of_ne_zero none
      positivity
    · rw [div_lt_one unit]
      exact_mod_cast Nat.mod_lt num positive
    · rw [compare_lt_iff_lt, div_lt_div_iff₀ unit two_pos, one_mul, mul_comm]
      exact_mod_cast Iff.rfl
    · rw [compare_eq_iff_eq, div_eq_div_iff unit.ne' two_ne_zero, one_mul, mul_comm]
      exact_mod_cast Iff.rfl

private theorem divCore_fine (pos₁ : 0 < m₁) (pos₂ : 0 < m₂) {shift : ℕ} {target : ℤ}
    (shifted : (shift : ℤ) = e₁ - e₂ - target)
    (least : target ≤ Format.binary64.targetExponent (totalExponent m₁ e₁ - totalExponent m₂ e₂)) :
    target ≤ Format.binary64.targetExponent (totalExponent ((m₁ <<< shift) / m₂) target) := by
  change target ≤ max ((m₁.log2 : ℤ) + 1 + e₁ - (m₂.log2 + 1 + e₂) - 53) (-1074) at least
  rw [targetExponent_eq]
  by_cases tiny : target ≤ -1074
  · exact tiny.trans (le_max_right _ _)
  · have room : 53 + m₂.log2 ≤ m₁.log2 + shift := by omega
    have quotient : 2 ^ 52 ≤ (m₁ <<< shift) / m₂ := by
      rw [Nat.le_div_iff_mul_le pos₂, Nat.shiftLeft_eq]
      calc
        2 ^ 52 * m₂ ≤ 2 ^ 52 * 2 ^ (m₂.log2 + 1) := Nat.mul_le_mul_left _ Nat.lt_log2_self.le
        _ = 2 ^ (53 + m₂.log2) := by rw [← pow_add]; congr 1; omega
        _ ≤ 2 ^ (m₁.log2 + shift) := Nat.pow_le_pow_right two_pos room
        _ = 2 ^ m₁.log2 * 2 ^ shift := pow_add ..
        _ ≤ m₁ * 2 ^ shift := Nat.mul_le_mul_right _ (Nat.log2_self_le pos₁.ne')
    have bits := (Nat.le_log2 (by omega)).mpr quotient
    omega

variable (e₁ e₂) in
/-- A quotient is rounded from a position that is the exact one. -/
theorem div_eq_round (sign₁ sign₂ : Sign) (pos₁ : 0 < m₁) (pos₂ : 0 < m₂) :
    ∃ (m : ℕ) (e : ℤ) (accuracy : Accuracy) (position : ℚ),
      UnpackedFloat.div .binary64 (.finite sign₁ m₁ e₁ pos₁) (.finite sign₂ m₂ e₂ pos₂) =
        roundWithAccuracy .binary64 (sign₁ / sign₂) m e accuracy ∧
      Marks (.ofMantissaAndAccuracy m accuracy) position ∧
      e ≤ Format.binary64.targetExponent (totalExponent m e) ∧
      position * 2 ^ e = m₁ * 2 ^ e₁ / (m₂ * 2 ^ e₂) := by
  obtain ⟨target, least⟩ : ∃ target, min (e₁ - e₂) (Format.binary64.targetExponent
    (totalExponent m₁ e₁ - totalExponent m₂ e₂)) = target := ⟨_, rfl⟩
  obtain ⟨shift, shifted⟩ : ∃ shift, (e₁ - e₂ - target).toNat = shift := ⟨_, rfl⟩
  have core : divCore .binary64 m₁ e₁ m₂ e₂ = ((m₁ <<< shift) / m₂, target,
      accuracyOfFraction ((m₁ <<< shift) % m₂) m₂) := by
    simp only [divCore, least, shifted]
  have amount : (shift : ℤ) = e₁ - e₂ - target := by omega
  refine ⟨_, target, _, _, ?_, marks_fraction (m₁ <<< shift) pos₂,
    divCore_fine pos₁ pos₂ amount (least ▸ min_le_right _ _), ?_⟩
  · simp only [UnpackedFloat.div, core]
  · have scale : (2 : ℚ) ^ shift * 2 ^ target = 2 ^ e₁ / 2 ^ e₂ := by
      rw [← zpow_natCast, amount, ← zpow_add₀ two_ne_zero, ← zpow_sub₀ two_ne_zero, sub_add_cancel]
    rw [Nat.shiftLeft_eq, mul_div_mul_comm, ← scale]
    push_cast
    ring

/-- The quotient of two numbers is rounded once. -/
theorem div_of_roundsTo (sign₁ sign₂ : Sign) {pos₁ : 0 < m₁} {pos₂ : 0 < m₂}
    (canonical : Canonical significand exponent)
    (rounds : RoundsTo (m₁ * 2 ^ e₁ / (m₂ * 2 ^ e₂)) significand exponent) :
    UnpackedFloat.div .binary64 (.finite sign₁ m₁ e₁ pos₁) (.finite sign₂ m₂ e₂ pos₂) =
      .finite (sign₁ / sign₂) significand exponent canonical.pos := by
  obtain ⟨m, e, accuracy, position, divides, marks, fine, exact⟩ :=
    div_eq_round e₁ e₂ sign₁ sign₂ pos₁ pos₂
  rw [divides]
  exact roundWithAccuracy_of_roundsTo _ marks fine canonical (exact ▸ rounds)

theorem div_of_tiny (sign₁ sign₂ : Sign) {pos₁ : 0 < m₁} {pos₂ : 0 < m₂}
    (tiny : (m₁ : ℚ) * 2 ^ e₁ / (m₂ * 2 ^ e₂) ≤ 2 ^ (-1075 : ℤ)) :
    UnpackedFloat.div .binary64 (.finite sign₁ m₁ e₁ pos₁) (.finite sign₂ m₂ e₂ pos₂) =
      .zero (sign₁ / sign₂) := by
  obtain ⟨m, e, accuracy, position, divides, marks, fine, exact⟩ :=
    div_eq_round e₁ e₂ sign₁ sign₂ pos₁ pos₂
  rw [divides]
  exact roundWithAccuracy_of_tiny _ marks fine (exact ▸ tiny)

end Operations

section Denotes

/-- The number is the positive rational, with a full significand. -/
def Denotes (x : Float) (q : ℚ) : Prop :=
  ∃ (m : ℕ) (e : ℤ) (positive : 0 < m), x.toModel.unpack = .finite .positive m e positive ∧
    0x10000000000000 ≤ m ∧ (m : ℚ) * 2 ^ e = q

variable {x y : Float} {a b : ℚ}

theorem finite_eq_unpacked (canonical : Canonical significand exponent) :
    UnpackedFloat.finite .positive significand exponent canonical.pos =
      (⟨false, significand, exponent⟩ : Parts).unpacked :=
  (Parts.unpacked_of_pos ⟨false, significand, exponent⟩ canonical.pos).symm

theorem Denotes.mul (left : Denotes x a) (right : Denotes y b)
    (canonical : Canonical significand exponent) (rounds : RoundsTo (a * b) significand exponent) :
    x * y = (⟨false, significand, exponent⟩ : Parts).float := by
  obtain ⟨m₁, e₁, pos₁, unpacked₁, full, rfl⟩ := left
  obtain ⟨m₂, e₂, pos₂, unpacked₂, _, rfl⟩ := right
  change Float.ofModel (Float.Model.pack
    (UnpackedFloat.mul .binary64 x.toModel.unpack y.toModel.unpack)) = _
  rw [unpacked₁, unpacked₂, mul_of_roundsTo _ _ full canonical rounds]
  exact congrArg (fun u => Float.ofModel (Float.Model.pack u)) (finite_eq_unpacked canonical)

theorem Denotes.div (left : Denotes x a) (right : Denotes y b)
    (canonical : Canonical significand exponent) (rounds : RoundsTo (a / b) significand exponent) :
    x / y = (⟨false, significand, exponent⟩ : Parts).float := by
  obtain ⟨m₁, e₁, pos₁, unpacked₁, full, rfl⟩ := left
  obtain ⟨m₂, e₂, pos₂, unpacked₂, _, rfl⟩ := right
  change Float.ofModel (Float.Model.pack
    (UnpackedFloat.div .binary64 x.toModel.unpack y.toModel.unpack)) = _
  rw [unpacked₁, unpacked₂, div_of_roundsTo _ _ canonical rounds]
  exact congrArg (fun u => Float.ofModel (Float.Model.pack u)) (finite_eq_unpacked canonical)

theorem Parts.denotes_float (full : 0x10000000000000 ≤ significand)
    (canonical : Canonical significand exponent) (bounded : exponent ≤ 971) :
    Denotes (⟨false, significand, exponent⟩ : Parts).float (significand * 2 ^ exponent) := by
  refine ⟨significand, exponent, canonical.pos, ?_, full, rfl⟩
  rw [Parts.unpack_float canonical bounded, finite_eq_unpacked canonical]

private theorem powersOfTen_parts : ∀ i : Fin Float.exactlyRepresentablePowersOfTen.size,
    let x := Float.exactlyRepresentablePowersOfTen[i]
    isFinite x = true ∧ (parts x).negative = false ∧ 0x10000000000000 ≤ (parts x).significand ∧
      -52 ≤ (parts x).exponent ∧
      (parts x).significand * 2 ^ ((parts x).exponent + 52).toNat = 10 ^ (i : ℕ) * 2 ^ 52 := by
  decide

private theorem denotes_powerOfTen {n : ℕ}
    (bound : n < Float.exactlyRepresentablePowersOfTen.size) :
    Denotes Float.exactlyRepresentablePowersOfTen[n] (10 ^ n) := by
  obtain ⟨finite, positive, full, least, exact⟩ := powersOfTen_parts ⟨n, bound⟩
  simp only [Fin.getElem_fin] at finite positive full least exact
  generalize Float.exactlyRepresentablePowersOfTen[n] = x at *
  refine ⟨(parts x).significand, (parts x).exponent, by omega, ?_, full, ?_⟩
  · rw [unpack_of_isFinite finite, Parts.unpacked_of_pos _ (by omega), Parts.sign, positive]
    rfl
  · have scaled : ((parts x).significand : ℚ) * 2 ^ ((parts x).exponent + 52) = 10 ^ n * 2 ^ 52 := by
      rw [← Int.toNat_of_nonneg (by omega : 0 ≤ (parts x).exponent + 52), zpow_natCast]
      exact_mod_cast exact
    rw [zpow_add₀ two_ne_zero, ← mul_assoc] at scaled
    exact mul_right_cancel₀ (by norm_num) scaled

/-- A positive number below `2 ^ 53`, shifted up to a full significand. -/
theorem canonical_shiftLeft {n : ℕ} (positive : 0 < n) (small : n < 0x20000000000000) :
    0x10000000000000 ≤ n <<< (52 - n.log2) ∧
      Canonical (n <<< (52 - n.log2)) (-(52 - n.log2 : ℕ)) := by
  have bits := log2_lt_of_lt positive small
  have scale : 2 ^ n.log2 * 2 ^ (52 - n.log2) = 0x10000000000000 := by
    rw [← pow_add, Nat.add_sub_cancel' (by omega)]
    norm_num
  have low : 2 ^ n.log2 * 2 ^ (52 - n.log2) ≤ n * 2 ^ (52 - n.log2) :=
    Nat.mul_le_mul_right _ (Nat.log2_self_le positive.ne')
  have high : n * 2 ^ (52 - n.log2) < 2 ^ (n.log2 + 1) * 2 ^ (52 - n.log2) :=
    Nat.mul_lt_mul_of_pos_right Nat.lt_log2_self (Nat.two_pow_pos _)
  rw [pow_succ, mul_right_comm, scale] at high
  rw [scale] at low
  rw [Nat.shiftLeft_eq]
  exact ⟨low, by omega, by omega, by omega, .inl low⟩

private theorem ofNat_eq {n : ℕ} (positive : 0 < n) (small : n < 0x20000000000000) :
    UnpackedFloat.ofNat .binary64 n =
      (⟨false, n <<< (52 - n.log2), -(52 - n.log2 : ℕ)⟩ : Parts).unpacked := by
  obtain ⟨full, canonical⟩ := canonical_shiftLeft positive small
  have bits := log2_lt_of_lt positive small
  have order : compare (n : ℤ) 0 = .gt := compare_gt_iff_gt.mpr (by omega)
  have target : Format.binary64.targetExponent (totalExponent n 0) = -(52 - n.log2 : ℕ) := by
    rw [targetExponent_eq]
    omega
  simp only [UnpackedFloat.ofNat, UnpackedFloat.ofInt, UnpackedFloat.normalize, order,
    UnpackedFloat.round, Int.toNat_natCast, target, decreaseExponent, zero_sub, neg_neg]
  rw [← finite_eq_unpacked canonical]
  refine roundWithAccuracy_of_roundsTo _ (marks_exact _) ?_ canonical (RoundsTo.self _ _)
  have bits := le_log2_of_full full
  rw [targetExponent_eq]
  omega

private theorem denotes_toFloat {n : ℕ} (positive : 0 < n) (small : n < 0x20000000000000) :
    Denotes n.toUInt64.toFloat n := by
  obtain ⟨full, canonical⟩ := canonical_shiftLeft positive small
  have value : ((n <<< (52 - n.log2) : ℕ) : ℚ) * 2 ^ (-(52 - n.log2 : ℕ) : ℤ) = n := by
    rw [zpow_neg, zpow_natCast, Nat.shiftLeft_eq]
    push_cast
    exact mul_inv_cancel_right₀ (by positivity) _
  have word : n.toUInt64.toNat = n := by
    rw [Nat.toUInt64_eq, UInt64.toNat_ofNat_of_lt']
    exact small.trans (by decide)
  have same : n.toUInt64.toFloat =
      (⟨false, n <<< (52 - n.log2), -(52 - n.log2 : ℕ)⟩ : Parts).float := by
    change Float.ofModel (Float.Model.pack (UnpackedFloat.ofNat .binary64 n.toUInt64.toNat)) = _
    rw [word, ofNat_eq positive small]
    rfl
  rw [same]
  have denotes := Parts.denotes_float full canonical (by omega)
  rwa [value] at denotes

end Denotes

section Decimals

variable {digits n : ℕ}

private theorem unpacked_ofScientific_up (positive : 0 < digits) (range : n ≤ 2048)
    (canonical : Canonical significand exponent)
    (rounds : RoundsTo (digits * 10 ^ n) significand exponent) :
    UnpackedFloat.ofScientific .binary64 digits n =
      (⟨false, significand, exponent⟩ : Parts).unpacked := by
  have value : ((digits <<< 53 : ℕ) : ℚ) * 2 ^ (-53 : ℤ) * ((10 ^ n : ℕ) * 2 ^ (0 : ℤ)) =
      digits * 10 ^ n := by
    rw [Nat.shiftLeft_eq]
    push_cast
    norm_num
    ring
  have full : 0x10000000000000 ≤ digits <<< 53 := by
    rw [Nat.shiftLeft_eq]
    omega
  have bounded : ¬ (n : ℤ) > 2 ^ Format.binary64.exponentBits := by
    norm_num
    omega
  have above : ¬ (n : ℤ) < -((2 ^ Format.binary64.exponentBits : ℤ) + digits.log2) := by
    norm_num
    omega
  rw [← value] at rounds
  rw [UnpackedFloat.ofScientific, dif_neg positive.ne', if_neg bounded, if_neg above,
    if_pos (Int.natCast_nonneg n), ← finite_eq_unpacked canonical]
  exact mul_of_roundsTo .positive .positive full canonical rounds

private theorem unpacked_ofScientific_down (positive : 0 < digits) (range : n ≤ 2048 + digits.log2)
    (down : 0 < n) (canonical : Canonical significand exponent)
    (rounds : RoundsTo (digits / 10 ^ n) significand exponent) :
    UnpackedFloat.ofScientific .binary64 digits (-n) =
      (⟨false, significand, exponent⟩ : Parts).unpacked := by
  have value : (digits : ℚ) * 2 ^ (0 : ℤ) / ((10 ^ n : ℕ) * 2 ^ (0 : ℤ)) = digits / 10 ^ n := by
    push_cast
    norm_num
  have bounded : ¬ (-n : ℤ) > 2 ^ Format.binary64.exponentBits := by norm_num
  have above : ¬ (-n : ℤ) < -((2 ^ Format.binary64.exponentBits : ℤ) + digits.log2) := by
    norm_num
    omega
  rw [← value] at rounds
  rw [UnpackedFloat.ofScientific, dif_neg positive.ne', if_neg bounded, if_neg above,
    if_neg (by omega), ← finite_eq_unpacked canonical]
  simp only [neg_neg, Int.toNat_natCast]
  exact div_of_roundsTo .positive .positive canonical rounds

theorem ofScientific_up (positive : 0 < digits) (range : n ≤ 2048)
    (canonical : Canonical significand exponent)
    (rounds : RoundsTo (digits * 10 ^ n) significand exponent) :
    Float.ofScientific digits false n = (⟨false, significand, exponent⟩ : Parts).float := by
  by_cases fast : digits < 2 ^ 53 ∧ n ≤ 22
  · have bound : n < Float.exactlyRepresentablePowersOfTen.size := Nat.lt_succ_of_le fast.2
    rw [Float.ofScientific, dif_pos fast]
    exact (denotes_toFloat positive (fast.1.trans_eq (by norm_num))).mul (denotes_powerOfTen bound)
      canonical rounds
  · rw [Float.ofScientific, dif_neg fast, Parts.float,
      ← unpacked_ofScientific_up positive range canonical rounds]
    rfl

private theorem ofScientific_down (positive : 0 < digits) (range : n ≤ 2048 + digits.log2)
    (down : 0 < n) (canonical : Canonical significand exponent)
    (rounds : RoundsTo (digits / 10 ^ n) significand exponent) :
    Float.ofScientific digits true n = (⟨false, significand, exponent⟩ : Parts).float := by
  by_cases fast : digits < 2 ^ 53 ∧ n ≤ 22
  · have bound : n < Float.exactlyRepresentablePowersOfTen.size := Nat.lt_succ_of_le fast.2
    rw [Float.ofScientific, dif_pos fast]
    exact (denotes_toFloat positive (fast.1.trans_eq (by norm_num))).div (denotes_powerOfTen bound)
      canonical rounds
  · have negative : Int.negOfNat n = -n := Int.negOfNat_eq
    rw [Float.ofScientific, dif_neg fast, Parts.float,
      ← unpacked_ofScientific_down positive range down canonical rounds, ← negative]
    rfl

theorem RoundsTo.two_zpow_le (rounds : RoundsTo q significand exponent)
    (canonical : Canonical significand exponent) : 2 ^ (-1075 : ℤ) ≤ q := by
  have half : (1 : ℚ) / 2 ≤ significand - lowerGap significand exponent := by
    have gap := lowerGap_le significand exponent
    have one : (1 : ℚ) ≤ significand := by exact_mod_cast canonical.pos
    linarith
  calc
    (2 : ℚ) ^ (-1075 : ℤ) = 1 / 2 * 2 ^ (-1074 : ℤ) := by
      rw [show (-1075 : ℤ) = -1074 - 1 by norm_num, zpow_sub_one₀ two_ne_zero]
      ring
    _ ≤ (significand - lowerGap significand exponent) * 2 ^ exponent :=
      mul_le_mul half (zpow_le_zpow_right₀ one_le_two canonical.least_le) (by positivity)
        (le_trans (by norm_num) half)
    _ ≤ q := rounds.low

theorem RoundsTo.digits_pos {e : ℤ} (rounds : RoundsTo (digits * 10 ^ e) significand exponent)
    (canonical : Canonical significand exponent) : 0 < digits := by
  refine Nat.pos_of_ne_zero fun zero => ?_
  have low := rounds.two_zpow_le canonical
  rw [zero, Nat.cast_zero, zero_mul] at low
  exact absurd low (not_le.mpr (by positivity))

private theorem lt_pow_length_toDigits (digits : ℕ) :
    digits < 10 ^ (Nat.toDigits 10 digits).length :=
  (Nat.length_toDigits_le_iff (by decide) Nat.length_toDigits_pos).mp le_rfl

private theorem pow_length_toDigits_le (positive : 0 < digits) :
    10 ^ ((Nat.toDigits 10 digits).length - 1) ≤ digits := by
  by_cases one : (Nat.toDigits 10 digits).length - 1 = 0
  · rw [one]
    exact positive
  · have longer := mt (Nat.length_toDigits_le_iff (n := digits) (b := 10) (by decide)
      (Nat.pos_of_ne_zero one)).mpr (by omega)
    exact not_lt.mp longer

private theorem two_pow_1024_le : 2 ^ 1024 ≤ 10 ^ 309 := by
  calc
    2 ^ 1024 = 2 * (2 ^ 93) ^ 11 := by rw [← pow_mul, ← pow_succ']
    _ ≤ 10 * (10 ^ 28) ^ 11 := Nat.mul_le_mul (by decide) (Nat.pow_le_pow_left (by norm_num) 11)
    _ = 10 ^ 309 := by rw [← pow_mul, ← pow_succ']

private theorem two_pow_1075_le : 2 ^ 1075 ≤ 10 ^ 330 := by
  calc
    2 ^ 1075 = (2 ^ 215) ^ 5 := pow_mul 2 215 5
    _ ≤ (10 ^ 66) ^ 5 := Nat.pow_le_pow_left (by norm_num) 5
    _ = 10 ^ 330 := by rw [← pow_mul]

/-- The number of digits and the exponent of a decimal within the range of the finite numbers. -/
theorem size_bounds {e : ℤ} (positive : 0 < digits) (low : (2 : ℚ) ^ (-1075 : ℤ) ≤ digits * 10 ^ e)
    (high : (digits : ℚ) * 10 ^ e < 2 ^ (1024 : ℤ)) :
    -330 ≤ e + (Nat.toDigits 10 digits).length ∧ e + (Nat.toDigits 10 digits).length ≤ 310 := by
  have unit : (0 : ℚ) < 10 ^ e := by positivity
  constructor
  · have above : (2 : ℚ) ^ (-1075 : ℤ) < 10 ^ ((Nat.toDigits 10 digits).length + e) := by
      refine low.trans_lt ?_
      rw [zpow_add₀ (by norm_num), zpow_natCast]
      exact mul_lt_mul_of_pos_right (by exact_mod_cast lt_pow_length_toDigits digits) unit
    have power : (10 : ℚ) ^ (-330 : ℤ) ≤ 2 ^ (-1075 : ℤ) := by
      rw [zpow_neg, zpow_neg]
      exact inv_anti₀ (by positivity) (by exact_mod_cast two_pow_1075_le)
    have := (zpow_lt_zpow_iff_right₀ (by norm_num)).mp (power.trans_lt above)
    omega
  · have below : (10 : ℚ) ^ (((Nat.toDigits 10 digits).length - 1 : ℕ) + e) < 2 ^ (1024 : ℤ) := by
      refine lt_of_le_of_lt ?_ high
      rw [zpow_add₀ (by norm_num), zpow_natCast]
      exact mul_le_mul_of_nonneg_right (by exact_mod_cast pow_length_toDigits_le positive) unit.le
    have power : (2 : ℚ) ^ (1024 : ℤ) ≤ 10 ^ (309 : ℤ) := by exact_mod_cast two_pow_1024_le
    have := (zpow_lt_zpow_iff_right₀ (by norm_num)).mp (below.trans_le power)
    omega

theorem nearestDecimal_of_roundsTo {e : ℤ} (canonical : Canonical significand exponent)
    (bounded : exponent ≤ 971) (rounds : RoundsTo (digits * 10 ^ e) significand exponent) :
    nearestDecimal digits e = (⟨false, significand, exponent⟩ : Parts).float := by
  have low := rounds.two_zpow_le canonical
  have high := rounds.lt_range canonical bounded
  have positive := rounds.digits_pos canonical
  obtain ⟨least, most⟩ := size_bounds positive low high
  have bits : (Nat.toDigits 10 digits).length - 1 ≤ digits.log2 := by
    rw [Nat.le_log2 positive.ne']
    exact (Nat.pow_le_pow_left (by norm_num) _).trans (pow_length_toDigits_le positive)
  rw [nearestDecimal]
  simp only [beq_iff_eq, positive.ne', if_false, not_lt.mpr most, not_lt.mpr least]
  split_ifs with down
  · have value : (digits : ℚ) * 10 ^ e = digits / 10 ^ e.natAbs := by
      rw [div_eq_mul_inv, ← zpow_natCast, ← zpow_neg, Int.ofNat_natAbs_of_nonpos down.le, neg_neg]
    rw [value] at rounds
    exact ofScientific_down positive (by omega) (by omega) canonical rounds
  · have value : (digits : ℚ) * 10 ^ e = digits * 10 ^ e.natAbs := by
      rw [← zpow_natCast, Int.natAbs_of_nonneg (not_lt.mp down)]
    rw [value] at rounds
    exact ofScientific_up positive (by omega) canonical rounds

end Decimals

end StackVM.Number
