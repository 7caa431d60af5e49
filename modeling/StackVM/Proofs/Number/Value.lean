import StackVM.Proofs.Number.Exact

/-! # The values of numbers

A finite number is a rational. Differences that a number can hold are not rounded, and a quotient or
a product is the number nearest to the exact one. Nothing is lost by cutting a number at its integer
part, and the integer part of a quotient is that of the exact quotient: rounding never reaches the
next integer.
-/

namespace StackVM.Number

open Float.Model Float.Model.UnpackedFloat

variable {x y : Float} {a b q v : ℚ} {significand : ℕ} {exponent : ℤ}

section Values

/-- The rational that a finite number is. -/
def value (x : Float) : ℚ :=
  (if (parts x).negative then -1 else 1) * ((parts x).significand * 2 ^ (parts x).exponent)

/-- The number is a rational that is not negative; both zeros are zero. -/
structure Is (x : Float) (a : ℚ) : Prop where
  finite : isFinite x = true
  magnitude : (parts x).significand * 2 ^ (parts x).exponent = a
  sign : 0 < a → (parts x).negative = false

theorem Is.nonneg (is : Is x a) : 0 ≤ a := is.magnitude ▸ by positivity

theorem is_value (finite : isFinite x = true) (nonneg : 0 ≤ value x) : Is x (value x) := by
  have magnitude : 0 ≤ ((parts x).significand : ℚ) * 2 ^ (parts x).exponent := by positivity
  unfold value at nonneg ⊢
  cases negative : (parts x).negative with
  | false => exact ⟨finite, by simp, fun _ => negative⟩
  | true =>
    rw [negative, if_pos rfl] at nonneg
    refine ⟨finite, ?_, fun positive => ?_⟩
    · rw [if_pos rfl]
      linarith
    · rw [if_pos rfl] at positive
      linarith

theorem Is.canonical (is : Is x a) (positive : 0 < a) :
    Canonical (parts x).significand (parts x).exponent ∧ (parts x).exponent ≤ 971 := by
  refine canonical_parts is.finite fun zero => ?_
  have magnitude := is.magnitude
  rw [zero, Nat.cast_zero, zero_mul] at magnitude
  exact positive.ne magnitude

theorem Is.unpack (is : Is x a) (positive : 0 < a) :
    x.toModel.unpack = .finite .positive (parts x).significand (parts x).exponent
      (is.canonical positive).1.pos := by
  have some := (is.canonical positive).1.pos
  rw [unpack_of_isFinite is.finite, Parts.unpacked_of_pos _ some, Parts.sign, is.sign positive]
  rfl

theorem Is.unpack_zero (is : Is x 0) : x.toModel.unpack = .zero (parts x).sign := by
  have magnitude := is.magnitude
  rw [mul_eq_zero_iff_right (by positivity), Nat.cast_eq_zero] at magnitude
  rw [unpack_of_isFinite is.finite, Parts.unpacked, dif_pos magnitude]

theorem Parts.Proper.is {p : Parts} (proper : p.Proper)
    (sign : p.negative = false ∨ p.significand = 0) :
    Is p.float (p.significand * 2 ^ p.exponent) := by
  refine ⟨proper.isFinite_float, by rw [proper.parts_float], fun positive => ?_⟩
  rw [proper.parts_float]
  refine sign.resolve_right fun zero => ?_
  rw [zero, Nat.cast_zero, zero_mul] at positive
  exact lt_irrefl _ positive

private theorem is_zero (s : Sign) : Is (Float.ofModel (Float.Model.pack (.zero s))) 0 := by
  have proper (negative : Bool) : (⟨negative, 0, -1074⟩ : Parts).Proper := .inl ⟨rfl, rfl⟩
  have is (negative : Bool) := (proper negative).is (.inr rfl)
  simp only [Nat.cast_zero, zero_mul] at is
  cases s with
  | positive => exact is false
  | negative => exact is true

theorem is_float (canonical : Canonical significand exponent) (bounded : exponent ≤ 971) :
    Is (⟨false, significand, exponent⟩ : Parts).float (significand * 2 ^ exponent) :=
  Parts.Proper.is (.inr ⟨canonical, bounded⟩) (.inl rfl)

/-- A number that is an integer has its value. -/
theorem IsInt.is {n : ℕ} (is : IsInt x n) : Is x n := by
  have whole := Parts.whole_eq is.isWhole
  have same := is.whole
  rw [Int.natAbs_natCast] at same
  refine ⟨is.isFinite, by rw [← whole, same], fun positive => ?_⟩
  have value := is.2
  unfold Parts.truncated at value
  cases negative : (parts x).negative with
  | false => rfl
  | true =>
    rw [negative, if_pos rfl, same] at value
    have : 0 < n := by exact_mod_cast positive
    omega

end Values

section Differences

/-- A positive multiple of a power of two, with as many leading bits as a number has. -/
theorem exists_canonical {n : ℕ} {e : ℤ} (positive : 0 < n) (small : n < 0x20000000000000)
    (least : -1074 ≤ e) :
    ∃ significand exponent, Canonical significand exponent ∧ exponent ≤ e ∧
      (significand : ℚ) * 2 ^ exponent = n * 2 ^ e := by
  have bits := log2_lt_of_lt positive small
  -- The significand is shifted up until it is full or the exponent is the least one.
  obtain ⟨k, shift⟩ : ∃ k, k = min (52 - n.log2) (e + 1074).toNat := ⟨_, rfl⟩
  refine ⟨n <<< k, e - k, ⟨?_, ?_, by omega, ?_⟩, by omega, shiftLeft_mul_zpow n k e⟩
  · rw [Nat.shiftLeft_eq]
    positivity
  · rw [Nat.shiftLeft_eq]
    calc
      n * 2 ^ k < 2 ^ (n.log2 + 1) * 2 ^ k :=
        Nat.mul_lt_mul_of_pos_right Nat.lt_log2_self (by positivity)
      _ = 2 ^ (n.log2 + 1 + k) := (pow_add ..).symm
      _ ≤ 2 ^ 53 := Nat.pow_le_pow_right two_pos (by omega)
      _ = 0x20000000000000 := by norm_num
  · by_cases full : k = 52 - n.log2
    · left
      rw [full]
      exact (canonical_shiftLeft positive small).1
    · right
      omega

/-- The difference of two positive numbers, if a number can hold it. -/
theorem sub_of_canonical {m₁ m₂ : ℕ} {e₁ e₂ : ℤ} {pos₁ : 0 < m₁} {pos₂ : 0 < m₂}
    (canonical : Canonical significand exponent)
    (exact : (m₁ : ℚ) * 2 ^ e₁ - m₂ * 2 ^ e₂ = significand * 2 ^ exponent) :
    UnpackedFloat.sub .binary64 (.finite .positive m₁ e₁ pos₁) (.finite .positive m₂ e₂ pos₂) =
      .finite .positive significand exponent canonical.pos := by
  have unit : (0 : ℚ) < 2 ^ min e₁ e₂ := by positivity
  have left := shiftLeft_aligned m₁ (min_le_left e₁ e₂)
  have right := shiftLeft_aligned m₂ (min_le_right e₁ e₂)
  change UnpackedFloat.normalize .binary64
    (((m₁ <<< (e₁ - min e₁ e₂).toNat : ℕ) : ℤ) - ((m₂ <<< (e₂ - min e₁ e₂).toNat : ℕ) : ℤ))
    (min e₁ e₂) .positive = _
  generalize m₁ <<< (e₁ - min e₁ e₂).toNat = n₁ at left ⊢
  generalize m₂ <<< (e₂ - min e₁ e₂).toNat = n₂ at right ⊢
  rw [← left, ← right, ← sub_mul] at exact
  have less : n₂ < n₁ := by
    have positive : 0 < ((n₁ : ℚ) - n₂) * 2 ^ min e₁ e₂ := by
      have := canonical.pos
      rw [exact]
      positivity
    have := pos_of_mul_pos_left positive unit.le
    exact_mod_cast sub_pos.mp this
  have rounds := RoundsTo.self significand exponent
  rw [← exact, ← Nat.cast_sub less.le] at rounds
  rw [← Nat.cast_sub less.le]
  exact normalize_of_roundsTo (by omega) canonical rounds

private theorem sub_of_same {m₁ m₂ : ℕ} {e₁ e₂ : ℤ} {pos₁ : 0 < m₁} {pos₂ : 0 < m₂}
    (same : (m₁ : ℚ) * 2 ^ e₁ = m₂ * 2 ^ e₂) :
    UnpackedFloat.sub .binary64 (.finite .positive m₁ e₁ pos₁) (.finite .positive m₂ e₂ pos₂) =
      .zero .positive := by
  have unit : (0 : ℚ) < 2 ^ min e₁ e₂ := by positivity
  have left := shiftLeft_aligned m₁ (min_le_left e₁ e₂)
  have right := shiftLeft_aligned m₂ (min_le_right e₁ e₂)
  rw [← left, ← right] at same
  have equal := mul_right_cancel₀ unit.ne' same
  change UnpackedFloat.normalize .binary64
    (((m₁ <<< (e₁ - min e₁ e₂).toNat : ℕ) : ℤ) - ((m₂ <<< (e₂ - min e₁ e₂).toNat : ℕ) : ℤ))
    (min e₁ e₂) .positive = _
  rw [Nat.cast_inj.mp equal, sub_self]
  rfl

/-- A difference that a number can hold is exact. -/
theorem Is.sub (left : Is x a) (right : Is y b) {n : ℕ} {e : ℤ} (small : n < 0x20000000000000)
    (least : -1074 ≤ e) (most : e ≤ 971) (exact : a - b = n * 2 ^ e) : Is (x - y) (a - b) := by
  have ordered : b ≤ a := by
    have : 0 ≤ a - b := exact ▸ by positivity
    linarith
  change Is (Float.ofModel (Float.Model.pack
    (UnpackedFloat.sub .binary64 x.toModel.unpack y.toModel.unpack))) _
  rcases right.nonneg.eq_or_lt with rfl | positive'
  · rw [sub_zero, right.unpack_zero]
    rcases left.nonneg.eq_or_lt with rfl | positive
    · rw [left.unpack_zero]
      simp only [UnpackedFloat.sub]
      split
      · exact is_zero _
      · exact is_zero _
    · have same := pack_unpack_model x
      rw [left.unpack positive] at same ⊢
      simp only [UnpackedFloat.sub]
      rw [same]
      exact left
  · have positive : 0 < a := positive'.trans_le ordered
    rw [left.unpack positive, right.unpack positive']
    rcases Nat.eq_zero_or_pos n with rfl | some
    · have same : a = b := by
        rw [Nat.cast_zero, zero_mul] at exact
        linarith
      rw [sub_of_same (left.magnitude.trans (same.trans right.magnitude.symm)), same, sub_self]
      exact is_zero _
    · obtain ⟨significand, exponent, canonical, less, full⟩ := exists_canonical some small least
      rw [exact, ← full]
      rw [← left.magnitude, ← right.magnitude, ← full] at exact
      rw [sub_of_canonical canonical exact, finite_eq_unpacked canonical]
      exact is_float canonical (less.trans most)

end Differences

section Quotients

/-- The rational to which a rational is rounded: a number in whose interval it lies, or zero. -/
inductive Rounded (q : ℚ) : ℚ → Prop
  | number {significand : ℕ} {exponent : ℤ} (canonical : Canonical significand exponent)
    (rounds : RoundsTo q significand exponent) : Rounded q (significand * 2 ^ exponent)
  | zero (tiny : q ≤ 2 ^ (-1075 : ℤ)) : Rounded q 0

theorem Rounded.exists_number {q : ℚ} (rounded : Rounded q v) (large : 2 ^ (-1075 : ℤ) < q) :
    ∃ significand exponent, Canonical significand exponent ∧ RoundsTo q significand exponent ∧
      v = significand * 2 ^ exponent := by
  cases rounded with
  | number canonical rounds => exact ⟨_, _, canonical, rounds, rfl⟩
  | zero tiny => exact absurd tiny (not_le.mpr large)

/-- A quotient within the range of the numbers is rounded once. -/
theorem Is.div (left : Is x a) (right : Is y b) (divisor : 0 < b)
    (bounded : a / b < 2 ^ (1000 : ℤ)) : ∃ v, Is (x / y) v ∧ Rounded (a / b) v := by
  change ∃ v, Is (Float.ofModel (Float.Model.pack
    (UnpackedFloat.div .binary64 x.toModel.unpack y.toModel.unpack))) v ∧ _
  rcases left.nonneg.eq_or_lt with rfl | positive
  · refine ⟨0, ?_, .zero ?_⟩
    · rw [left.unpack_zero, right.unpack divisor]
      exact is_zero _
    · rw [zero_div]
      positivity
  · rw [left.unpack positive, right.unpack divisor]
    by_cases large : 2 ^ (-1075 : ℤ) < a / b
    · obtain ⟨significand, exponent, canonical, rounds⟩ := exists_roundsTo large
      refine ⟨_, ?_, .number canonical rounds⟩
      have most := rounds.exponent_le_range canonical bounded
      rw [← left.magnitude, ← right.magnitude] at rounds
      rw [div_of_roundsTo .positive .positive canonical rounds]
      change Is (Float.ofModel (Float.Model.pack (.finite .positive _ _ _))) _
      rw [finite_eq_unpacked canonical]
      exact is_float canonical most
    · have tiny := not_lt.mp large
      refine ⟨0, ?_, .zero tiny⟩
      rw [← left.magnitude, ← right.magnitude] at tiny
      rw [div_of_tiny .positive .positive tiny]
      exact is_zero _

theorem Is.exponent_nonpos (is : Is x a) (small : a < 2 ^ (51 : ℤ)) : (parts x).exponent ≤ 0 := by
  rcases proper_parts is.finite with ⟨_, least⟩ | ⟨canonical, _⟩
  · omega
  · have rounds := RoundsTo.self (parts x).significand (parts x).exponent
    rw [is.magnitude] at rounds
    exact rounds.exponent_nonpos canonical small

private theorem Is.significand_lt (is : Is x a) : (parts x).significand < 0x20000000000000 := by
  rcases proper_parts is.finite with ⟨zero, _⟩ | ⟨canonical, _⟩
  · omega
  · exact canonical.lt

/-- Rounding a quotient by a natural number does not change its integer part. -/
theorem Is.floor_div (is : Is x a) {d : ℕ} (divisor : 0 < d) (small : a < 2 ^ (51 : ℤ))
    (rounded : Rounded (a / d) v) : ⌊v⌋₊ = ⌊a / d⌋₊ := by
  have unit : (1 : ℚ) ≤ d := by exact_mod_cast divisor
  have nonneg : 0 ≤ a / d := div_nonneg is.nonneg (by linarith)
  cases rounded with
  | zero tiny =>
    have one : a / d < 1 := tiny.trans_lt (zpow_lt_one_of_neg₀ one_lt_two (by norm_num))
    rw [Nat.floor_zero, Nat.floor_eq_zero.mpr one]
  | @number significand exponent canonical rounds =>
    have less : a / d < 2 ^ (51 : ℤ) := lt_of_le_of_lt (div_le_self is.nonneg unit) small
    have whole := rounds.exponent_nonpos canonical less
    have low := Nat.floor_le (by positivity : (0 : ℚ) ≤ significand * 2 ^ exponent)
    have high := Nat.lt_floor_add_one ((significand : ℚ) * 2 ^ exponent)
    generalize ⌊(significand : ℚ) * 2 ^ exponent⌋₊ = k at low high
    refine ((Nat.floor_eq_iff nonneg).mpr ⟨?_, ?_⟩).symm
    · by_contra below
      have below := not_le.mp below
      have reached := (rounds.le_natCast whole below).antisymm low
      have normal : exponent ≠ -1074 := by
        rintro rfl
        have positive : 0 < k := by exact_mod_cast nonneg.trans_lt below
        have one : (1 : ℚ) ≤ k := by exact_mod_cast positive
        have tiny := (RoundsTo.self significand (-1074)).lt_two_zpow canonical
        have most : (2 : ℚ) ^ (53 + -1074 : ℤ) < 1 := zpow_lt_one_of_neg₀ one_lt_two (by norm_num)
        linarith
      rw [← is.magnitude] at rounds below
      exact rounds.ne_natCast divisor is.significand_lt (is.exponent_nonpos small) canonical normal
        below reached
    · exact_mod_cast rounds.lt_natCast whole (k := k + 1) (by exact_mod_cast high)

end Quotients

section Whole

theorem isNaN_of_isFinite (finite : isFinite x = true) : isNaN x = false := by
  rw [isFinite, bne_iff_ne] at finite
  simp [isNaN, finite]

theorem Is.whole (is : Is x a) : (parts x).whole = ⌊a⌋₊ := by
  rw [← is.magnitude, Parts.whole]
  split_ifs with below
  · rw [zpow_eq_inv_pow_toNat below.le, ← div_eq_mul_inv, Nat.shiftRight_eq_div_pow]
    exact_mod_cast (Nat.floor_div_eq_div (K := ℚ) _ _).symm
  · rw [zpow_eq_pow_toNat (not_lt.mp below), Nat.shiftLeft_eq]
    exact_mod_cast (Nat.floor_natCast (R := ℚ) _).symm

theorem Is.truncated (is : Is x a) : (parts x).truncated = ⌊a⌋₊ := by
  have whole := is.whole
  unfold Parts.truncated
  cases negative : (parts x).negative with
  | false => rw [if_neg Bool.false_ne_true, whole]
  | true =>
    have zero : a = 0 := by
      refine (is.nonneg.eq_or_lt.resolve_right fun positive => ?_).symm
      rw [is.sign positive] at negative
      cases negative
    rw [whole, zero]
    simp

theorem Is.floor_lt (is : Is x a) (small : a < 2 ^ (51 : ℤ)) : ⌊a⌋₊ < 0x8000000000000 := by
  rw [Nat.floor_lt is.nonneg]
  exact small.trans_eq (by norm_num)

theorem Is.toInt (is : Is x a) (small : a < 2 ^ (51 : ℤ)) : toInt x = ⌊a⌋₊ := by
  have bound := is.floor_lt small
  rw [Number.toInt, clampToInt, isNaN_of_isFinite is.finite, is.finite, is.truncated]
  simp only [Bool.false_eq_true, if_false, Bool.not_true, minInt64, maxInt64]
  omega

/-- An integer is a multiple of the last place of a small number, so taking it away is exact. -/
theorem Is.sub_natCast (is : Is x a) {k : ℕ} (integer : Is y k) (le : (k : ℚ) ≤ a)
    (small : a < 2 ^ (51 : ℤ)) : Is (x - y) (a - k) := by
  have unit : (0 : ℚ) < 2 ^ (parts x).exponent := by positivity
  have whole := is.exponent_nonpos small
  have bits := is.significand_lt
  have least : -1074 ≤ (parts x).exponent := by
    rcases proper_parts is.finite with ⟨_, least⟩ | ⟨canonical, _⟩
    · exact least.ge
    · exact canonical.least_le
  obtain ⟨j, same⟩ := natCast_eq_mul_zpow k whole
  have below : j ≤ (parts x).significand := by
    rw [← is.magnitude, same] at le
    exact_mod_cast le_of_mul_le_mul_right le unit
  refine is.sub integer (n := (parts x).significand - j) (by omega) least (by omega) ?_
  rw [Nat.cast_sub below, sub_mul, is.magnitude, ← same]

theorem is_ofNat {k : ℕ} (small : k < 0x20000000000000) : Is (ofNat k) k := (isInt_ofNat small).is

theorem Is.eq_floor (is : Is x a) (whole : (parts x).isWhole = true) : a = ⌊a⌋₊ := by
  rw [← is.whole, Parts.whole_eq whole, is.magnitude]

private theorem Is.negative_eq_false (is : Is x a) (part : (parts x).isWhole = false) :
    (parts x).negative = false := by
  refine is.sign (is.nonneg.lt_of_ne fun zero => ?_)
  have none : (parts x).significand = 0 := by
    have magnitude := is.magnitude
    rwa [← zero, mul_eq_zero_iff_right (by positivity), Nat.cast_eq_zero] at magnitude
  simp [Parts.isWhole, none] at part

theorem Is.trunc (is : Is x a) (small : a < 2 ^ (51 : ℤ)) : Is (trunc x) (⌊a⌋₊ : ℕ) := by
  have bound := is.floor_lt small
  rw [Number.trunc, is.finite]
  cases whole : (parts x).isWhole with
  | true =>
    rw [← is.eq_floor whole]
    exact is
  | false =>
    rw [is.negative_eq_false whole, is.whole]
    exact is_ofNat (by omega)

/-- What is left of a number without its integer part. -/
theorem Is.fract (is : Is x a) (small : a < 2 ^ (51 : ℤ)) : Is (fract x) (a - ⌊a⌋₊) :=
  is.sub_natCast (is.trunc small) (Nat.floor_le is.nonneg) small

theorem Is.round (is : Is x a) (small : a < 2 ^ (51 : ℤ)) : Is (round x) (⌊a + 1 / 2⌋₊ : ℕ) := by
  rw [Number.round, is.finite]
  cases whole : (parts x).isWhole with
  | true =>
    have half : ⌊a + 1 / 2⌋₊ = ⌊a⌋₊ := by
      rw [is.eq_floor whole, Nat.floor_natCast, Nat.floor_eq_iff (by positivity)]
      constructor <;> linarith
    rw [half, ← is.eq_floor whole]
    exact is
  | false =>
    have below : (parts x).exponent < 0 := by
      by_contra above
      simp [Parts.isWhole, not_lt.mp above] at whole
    have nearest : (parts x).nearest = ⌊a + 1 / 2⌋₊ := by
      rw [Parts.nearest, if_pos below, Nat.shiftRight_eq_div_pow, ← is.magnitude,
        zpow_eq_inv_pow_toNat below.le, Nat.one_shiftLeft, ← Nat.floor_div_eq_div (K := ℚ)]
      congr 1
      push_cast
      field_simp
      ring
    have bound : ⌊a + 1 / 2⌋₊ < 0x20000000000000 := by
      rw [Nat.floor_lt (by linarith [is.nonneg])]
      norm_num at small ⊢
      linarith
    rw [is.negative_eq_false whole, nearest]
    exact is_ofNat bound

end Whole

section Order

theorem Canonical.lt_iff {m n : ℕ} {e f : ℤ} (left : Canonical m e) (right : Canonical n f) :
    (m : ℚ) * 2 ^ e < n * 2 ^ f ↔ e < f ∨ e = f ∧ m < n := by
  -- A greater exponent goes with a full significand, hence with a greater number.
  have greater {m n : ℕ} {e f : ℤ} (left : Canonical m e) (right : Canonical n f) (less : e < f) :
      (m : ℚ) * 2 ^ e < n * 2 ^ f := by
    have full := right.normal.resolve_right (by have := left.least_le; omega)
    calc
      (m : ℚ) * 2 ^ e < 0x20000000000000 * 2 ^ e :=
        mul_lt_mul_of_pos_right (by exact_mod_cast left.lt) (by positivity)
      _ = 0x10000000000000 * 2 ^ (e + 1) := by
        rw [zpow_add_one₀ two_ne_zero]
        ring
      _ ≤ n * 2 ^ f := mul_le_mul (by exact_mod_cast full)
        (zpow_le_zpow_right₀ one_le_two (by omega)) (by positivity) (by positivity)
  rcases lt_trichotomy e f with less | rfl | more
  · exact iff_of_true (greater left right less) (.inl less)
  · rw [mul_lt_mul_iff_left₀ (by positivity), Nat.cast_lt]
    simp
  · refine iff_of_false (not_lt.mpr (greater right left more).le) ?_
    omega

theorem Is.lt_iff (left : Is x a) (right : Is y b) : x < y ↔ a < b := by
  rw [lt_iff_unpack_lt]
  rcases left.nonneg.eq_or_lt with rfl | positive <;>
    rcases right.nonneg.eq_or_lt with rfl | positive'
  · rw [left.unpack_zero, right.unpack_zero]
    simp [UnpackedFloat.lt, UnpackedFloat.compare]
  · rw [left.unpack_zero, right.unpack positive']
    simp [UnpackedFloat.lt, UnpackedFloat.compare, positive']
  · rw [left.unpack positive, right.unpack_zero]
    simp [UnpackedFloat.lt, UnpackedFloat.compare, positive.le]
  · have order := (left.canonical positive).1.lt_iff (right.canonical positive').1
    rw [left.magnitude, right.magnitude] at order
    rw [left.unpack positive, right.unpack positive', order]
    simp only [UnpackedFloat.lt, UnpackedFloat.compare, beq_iff_eq, Option.some.injEq,
      Ordering.then_eq_lt, compare_lt_iff_lt, compare_eq_iff_eq]

theorem ofNat_lt_ofNat {m n : ℕ} (small : m < n) (bounded : n < 0x20000000000000) :
    ofNat m < ofNat n := by
  rw [(is_ofNat (small.trans bounded)).lt_iff (is_ofNat bounded)]
  exact_mod_cast small

/-- A positive rational is one number at most. -/
theorem Is.unique (left : Is x a) (right : Is y a) (positive : 0 < a) : x = y := by
  obtain ⟨canonical, _⟩ := left.canonical positive
  obtain ⟨canonical', _⟩ := right.canonical positive
  have below := canonical.lt_iff canonical'
  have above := canonical'.lt_iff canonical
  rw [left.magnitude, right.magnitude, iff_false_left (lt_irrefl a)] at below above
  have same : x.toModel.unpack = y.toModel.unpack := by
    rw [left.unpack positive, right.unpack positive, UnpackedFloat.finite.injEq]
    exact ⟨rfl, by omega, by omega⟩
  rw [← pack_unpack_model x, same, pack_unpack_model y]

end Order

section Products

theorem Is.denotes (is : Is x a) (large : 2 ^ (-1022 : ℤ) ≤ a) : Denotes x a := by
  have positive : 0 < a := lt_of_lt_of_le (by positivity) large
  have canonical := (is.canonical positive).1
  refine ⟨_, _, canonical.pos, is.unpack positive, ?_, is.magnitude⟩
  by_contra small
  have least := canonical.normal.resolve_left small
  have less : ((parts x).significand : ℚ) < 0x10000000000000 := by exact_mod_cast not_le.mp small
  refine absurd large (not_le.mpr ?_)
  calc
    a = (parts x).significand * 2 ^ (-1074 : ℤ) := by rw [← least, is.magnitude]
    _ < 0x10000000000000 * 2 ^ (-1074 : ℤ) := mul_lt_mul_of_pos_right less (by positivity)
    _ = 2 ^ (52 : ℤ) * 2 ^ (-1074 : ℤ) := by norm_num
    _ = 2 ^ (-1022 : ℤ) := by rw [← zpow_add₀ two_ne_zero]; rfl

/-- A product within the range of the numbers is rounded once. -/
theorem Is.mul (left : Is x a) (right : Is y b) (large : 2 ^ (-1022 : ℤ) ≤ a) (large' : 1 ≤ b)
    (bounded : a * b < 2 ^ (1000 : ℤ)) : ∃ v, Is (x * y) v ∧ Rounded (a * b) v := by
  have least : (2 : ℚ) ^ (-1075 : ℤ) < a * b := by
    calc
      (2 : ℚ) ^ (-1075 : ℤ) < 2 ^ (-1022 : ℤ) := zpow_lt_zpow_right₀ one_lt_two (by norm_num)
      _ ≤ a := large
      _ ≤ a * b := le_mul_of_one_le_right left.nonneg large'
  obtain ⟨significand, exponent, canonical, rounds⟩ := exists_roundsTo least
  refine ⟨_, ?_, .number canonical rounds⟩
  have most := rounds.exponent_le_range canonical bounded
  have normal : (2 : ℚ) ^ (-1022 : ℤ) ≤ b :=
    (zpow_le_one_of_nonpos₀ one_le_two (by norm_num)).trans large'
  rw [(left.denotes large).mul (right.denotes normal) canonical rounds]
  exact is_float canonical most

end Products

end StackVM.Number
