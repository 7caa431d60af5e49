import StackVM.Proofs.Number.Integer
import StackVM.Value.Basic

/-! # Arithmetic of small integers is exact

A finite number and its parts determine each other. `IsInt` ties a number to the integer that it is;
both zeros are zero. Every integer below `2 ^ 53` in magnitude is a number, and sums and products
that stay below this bound are not rounded.
-/

namespace StackVM.Number

open Float.Model Float.Model.UnpackedFloat

section Proper

variable {p q : Parts} {x : Float}

/-- Parts as the bits of a finite number hold them. -/
def Parts.Proper (p : Parts) : Prop :=
  p.significand = 0 ∧ p.exponent = -1074 ∨ Canonical p.significand p.exponent ∧ p.exponent ≤ 971

theorem proper_parts (finite : isFinite x = true) : (parts x).Proper := by
  by_cases zero : (parts x).significand = 0
  · refine .inl ⟨zero, ?_⟩
    by_cases field : exponentField x = 0
    · rw [parts_subnormal field]
    · rw [parts_normal field] at zero
      simp only at zero
      omega
  · exact .inr (canonical_parts finite zero)

theorem Parts.Proper.unpack_float (proper : p.Proper) : p.float.toModel.unpack = p.unpacked := by
  rcases proper with ⟨zero, _⟩ | ⟨canonical, bounded⟩
  · exact Parts.unpack_float_zero zero
  · exact Parts.unpack_float canonical bounded

theorem Parts.Proper.isFinite_float (proper : p.Proper) : isFinite p.float = true :=
  isFinite_of_unpack proper.unpack_float

private theorem Parts.sign_inj (same : p.sign = q.sign) : p.negative = q.negative := by
  rcases p with ⟨_ | _, _, _⟩ <;> rcases q with ⟨_ | _, _, _⟩ <;>
    simp only [Parts.sign] at same ⊢ <;> cases same

private theorem Parts.Proper.eq_of_unpacked (left : p.Proper) (right : q.Proper)
    (same : p.unpacked = q.unpacked) : p = q := by
  rcases left with ⟨zero, least⟩ | ⟨canonical, _⟩ <;> rcases right with ⟨zero', least'⟩ | ⟨canonical', _⟩
  · rw [Parts.unpacked, dif_pos zero, Parts.unpacked, dif_pos zero'] at same
    have sign := Parts.sign_inj (UnpackedFloat.zero.inj same)
    cases p
    cases q
    simp_all
  · rw [Parts.unpacked, dif_pos zero, q.unpacked_of_pos canonical'.pos] at same
    cases same
  · rw [Parts.unpacked_of_pos p canonical.pos, Parts.unpacked, dif_pos zero'] at same
    cases same
  · rw [Parts.unpacked_of_pos p canonical.pos, Parts.unpacked_of_pos q canonical'.pos] at same
    obtain ⟨sign, significand, exponent⟩ := UnpackedFloat.finite.inj same
    have sign := Parts.sign_inj sign
    cases p
    cases q
    simp_all

/-- Reading the parts of a number made from parts gives them back. -/
theorem Parts.Proper.parts_float (proper : p.Proper) : parts p.float = p :=
  (proper_parts proper.isFinite_float).eq_of_unpacked proper
    ((unpack_of_isFinite proper.isFinite_float).symm.trans proper.unpack_float)

private theorem neg_eq_float (finite : isFinite x = true) :
    -x = ({ parts x with negative := !(parts x).negative } : Parts).float := by
  have turned := Parts.neg_float (proper_parts finite).unpack_float
  rwa [float_parts finite] at turned

private theorem isFinite_neg (finite : isFinite x = true) : isFinite (-x) = true := by
  rw [neg_eq_float finite]
  exact Parts.Proper.isFinite_float (proper_parts finite)

private theorem parts_neg (finite : isFinite x = true) :
    parts (-x) = { parts x with negative := !(parts x).negative } := by
  rw [neg_eq_float finite]
  exact Parts.Proper.parts_float (proper_parts finite)

end Proper

section Integers

variable {x : Float} {n : ℤ} {m : ℕ}

/-- The number is the integer. -/
def IsInt (x : Float) (n : ℤ) : Prop := isInteger x = true ∧ (parts x).truncated = n

theorem IsInt.isFinite (is : IsInt x n) : isFinite x = true := by
  have integer := is.1
  rw [isInteger, Bool.and_eq_true] at integer
  exact integer.1

theorem IsInt.isWhole (is : IsInt x n) : (parts x).isWhole = true := by
  have integer := is.1
  rw [isInteger, Bool.and_eq_true] at integer
  exact integer.2

private theorem IsInt.of_parts (finite : Number.isFinite x = true)
    (whole : (parts x).isWhole = true)
    (value : (parts x).truncated = n) : IsInt x n :=
  ⟨by rw [isInteger, finite, whole]; rfl, value⟩

theorem IsInt.isNaN (is : IsInt x n) : isNaN x = false := by
  have finite := is.isFinite
  rw [Number.isFinite, bne_iff_ne] at finite
  simp [Number.isNaN, finite]

theorem IsInt.whole (is : IsInt x n) : (parts x).whole = n.natAbs := by
  obtain ⟨_, rfl⟩ := is
  unfold Parts.truncated
  split
  · rw [Int.natAbs_neg, Int.natAbs_natCast]
  · rw [Int.natAbs_natCast]

theorem IsInt.clampToInt (is : IsInt x n) (lo hi : ℤ) : clampToInt lo hi x = max lo (min hi n) := by
  rw [Number.clampToInt, is.isNaN, is.isFinite, is.2]
  rfl

theorem IsInt.toInt (is : IsInt x n) (low : minInt64 ≤ n) (high : n ≤ maxInt64) : toInt x = n := by
  rw [Number.toInt, is.clampToInt]
  omega

theorem IsInt.toInt_of_small (is : IsInt x n) (small : n.natAbs < 0x20000000000000) :
    Number.toInt x = n :=
  is.toInt (by unfold minInt64; omega) (by unfold maxInt64; omega)

theorem IsInt.toNat (is : IsInt x m) : toNat x = min 0xffffffffffffffff m := by
  rw [Number.toNat, is.clampToInt]
  omega

theorem IsInt.neg (is : IsInt x n) : IsInt (-x) (-n) := by
  have finite := is.isFinite
  refine .of_parts (isFinite_neg finite) ?_ ?_
  · rw [parts_neg finite]
    exact is.isWhole
  · rw [parts_neg finite, ← is.2]
    unfold Parts.truncated
    cases (parts x).negative
    · rfl
    · exact (neg_neg _).symm

/-- A number that is an integer equals the number of the integer. -/
theorem IsInt.beq (is : IsInt x n) : (ofInt n == x) = true := is.2 ▸ ofInt_truncated is.1

theorem IsInt.eq_ofInt (is : IsInt x n) (nonzero : n ≠ 0) : x = ofInt n := by
  have positive : (parts x).significand ≠ 0 := by
    intro zero
    have none := (Parts.whole_eq_zero is.isWhole).mpr zero
    rw [is.whole] at none
    omega
  rw [← is.2, ofInt_truncated_eq is.isFinite is.isWhole positive]

theorem shiftLeft_mul_zpow (m k : ℕ) (e : ℤ) : ((m <<< k : ℕ) : ℚ) * 2 ^ (e - k) = m * 2 ^ e := by
  rw [zpow_sub₀ two_ne_zero, zpow_natCast, Nat.shiftLeft_eq]
  push_cast
  field_simp

theorem shiftLeft_aligned (m : ℕ) {e least : ℤ} (le : least ≤ e) :
    ((m <<< (e - least).toNat : ℕ) : ℚ) * 2 ^ least = m * 2 ^ e := by
  have exponents : e - ((e - least).toNat : ℤ) = least := by omega
  have value := shiftLeft_mul_zpow m (e - least).toNat e
  rwa [exponents] at value

private theorem shiftLeft_value (m k : ℕ) : ((m <<< k : ℕ) : ℚ) * 2 ^ (-(k : ℤ)) = m := by
  have value := shiftLeft_mul_zpow m k 0
  rwa [zero_sub, zpow_zero, mul_one] at value

/-- The parts of the number with a sign and a positive magnitude below `2 ^ 53`. -/
def integerParts (negative : Bool) (m : ℕ) : Parts :=
  ⟨negative, m <<< (52 - m.log2), -(52 - m.log2 : ℕ)⟩

theorem value_integerParts (negative : Bool) (m : ℕ) :
    ((integerParts negative m).significand : ℚ) * 2 ^ (integerParts negative m).exponent = m :=
  shiftLeft_value m (52 - m.log2)

theorem canonical_integerParts (negative : Bool) (positive : 0 < m) (small : m < 0x20000000000000) :
    Canonical (integerParts negative m).significand (integerParts negative m).exponent :=
  (canonical_shiftLeft positive small).2

theorem exponent_integerParts_nonpos (negative : Bool) (m : ℕ) :
    (integerParts negative m).exponent ≤ 0 := by
  simp only [integerParts]
  omega

private theorem proper_integerParts (negative : Bool) (positive : 0 < m)
    (small : m < 0x20000000000000) :
    (integerParts negative m).Proper :=
  .inr ⟨canonical_integerParts negative positive small,
    (exponent_integerParts_nonpos negative m).trans (by decide)⟩

/-- What has the value of a small natural number rounds to it. -/
theorem roundsTo_natCast (negative : Bool) (m : ℕ) :
    RoundsTo (m : ℚ) (integerParts negative m).significand (integerParts negative m).exponent := by
  have rounds := RoundsTo.self (integerParts negative m).significand (integerParts negative m).exponent
  rwa [value_integerParts] at rounds

theorem ofNat_eq_float (positive : 0 < m) (small : m < 0x20000000000000) :
    ofNat m = (integerParts false m).float := by
  have rounds := roundsTo_natCast false m
  rw [← mul_one (m : ℚ), ← pow_zero (10 : ℚ)] at rounds
  exact ofScientific_up positive (by decide) (canonical_integerParts false positive small) rounds

private theorem parts_ofNat (positive : 0 < m) (small : m < 0x20000000000000) :
    isFinite (ofNat m) = true ∧ parts (ofNat m) = integerParts false m := by
  have proper := proper_integerParts false positive small
  rw [ofNat_eq_float positive small]
  exact ⟨proper.isFinite_float, proper.parts_float⟩

/-- Every natural number below `2 ^ 53` is a number. -/
theorem isInt_ofNat (small : m < 0x20000000000000) : IsInt (ofNat m) m := by
  rcases Nat.eq_zero_or_pos m with rfl | positive
  · exact ⟨by decide, by decide⟩
  · obtain ⟨finite, held⟩ := parts_ofNat positive small
    have whole : (integerParts false m).isWhole = true := by
      rw [Parts.isWhole, Bool.or_eq_true]
      right
      simp only [integerParts, neg_neg, Int.toNat_natCast, beq_iff_eq, Nat.shiftLeft_eq, one_mul]
      exact Nat.mul_mod_left ..
    have value := Parts.whole_eq whole
    rw [value_integerParts] at value
    refine .of_parts finite ?_ ?_
    · rw [held]
      exact whole
    · rw [held]
      change ((integerParts false m).whole : ℤ) = m
      exact_mod_cast value

/-- Every integer below `2 ^ 53` in magnitude is a number. -/
theorem isInt_ofInt (small : n.natAbs < 0x20000000000000) : IsInt (ofInt n) n := by
  rcases Int.eq_nat_or_neg n with ⟨m, rfl | rfl⟩
  · exact isInt_ofNat (by omega)
  · rcases Nat.eq_zero_or_pos m with rfl | positive
    · exact isInt_ofNat (m := 0) (by decide)
    · rw [ofInt_neg positive]
      exact (isInt_ofNat (by omega)).neg

theorem IsInt.parts_eq (is : IsInt x n) (nonzero : n ≠ 0) (small : n.natAbs < 0x20000000000000) :
    parts x = integerParts (decide (n < 0)) n.natAbs := by
  rw [is.eq_ofInt nonzero]
  rcases Int.eq_nat_or_neg n with ⟨m, rfl | rfl⟩
  · have sign : ¬ (m : ℤ) < 0 := by omega
    rw [decide_eq_false sign, Int.natAbs_natCast]
    exact (parts_ofNat (by omega) (by omega)).2
  · have sign : -(m : ℤ) < 0 := by omega
    obtain ⟨finite, held⟩ := parts_ofNat (m := m) (by omega) (by omega)
    rw [decide_eq_true sign, Int.natAbs_neg, Int.natAbs_natCast, ofInt_neg (by omega), parts_neg finite,
      held]
    rfl

end Integers

section Arithmetic

variable {x y : Float} {a b : ℚ} {m n : ℕ} {significand : ℕ} {exponent : ℤ}

private theorem denotes_ofNat (positive : 0 < m) (small : m < 0x20000000000000) :
    Denotes (ofNat m) m := by
  obtain ⟨full, canonical⟩ := canonical_shiftLeft positive small
  have denotes := Parts.denotes_float full canonical (by omega)
  rw [shiftLeft_value] at denotes
  rw [ofNat_eq_float positive small]
  exact denotes

theorem log2_shiftLeft (positive : 0 < m) (k : ℕ) : (m <<< k).log2 = m.log2 + k := by
  rw [Nat.log2_eq_iff (by rw [Nat.shiftLeft_eq]; positivity), Nat.shiftLeft_eq]
  constructor
  · rw [pow_add]
    exact Nat.mul_le_mul_right _ (Nat.log2_self_le positive.ne')
  · rw [add_right_comm, pow_add]
    exact Nat.mul_lt_mul_of_pos_right Nat.lt_log2_self (Nat.two_pow_pos k)

/-- Lowering the exponent moves bits into the significand and leaves the leading one where it is. -/
theorem totalExponent_shiftLeft (positive : 0 < m) (k : ℕ) (e : ℤ) :
    totalExponent (m <<< k) (e - k) = totalExponent m e := by
  unfold totalExponent
  rw [log2_shiftLeft positive]
  omega

theorem normalize_of_roundsTo {e : ℤ} (positive : 0 < m) (canonical : Canonical significand exponent)
    (rounds : RoundsTo (m * 2 ^ e) significand exponent) :
    UnpackedFloat.normalize .binary64 m e .positive =
      .finite .positive significand exponent canonical.pos := by
  have order : compare (m : ℤ) 0 = .gt := compare_gt_iff_gt.mpr (by omega)
  simp only [UnpackedFloat.normalize, order, UnpackedFloat.round, Int.toNat_natCast, decreaseExponent]
  generalize shift : (e - Format.binary64.targetExponent (totalExponent m e)).toNat = k
  rw [← shiftLeft_mul_zpow m k] at rounds
  refine roundWithAccuracy_of_roundsTo _ (marks_exact _) ?_ canonical rounds
  rw [totalExponent_shiftLeft positive]
  omega

theorem Denotes.add (left : Denotes x a) (right : Denotes y b)
    (canonical : Canonical significand exponent) (rounds : RoundsTo (a + b) significand exponent) :
    x + y = (⟨false, significand, exponent⟩ : Parts).float := by
  obtain ⟨m₁, e₁, pos₁, unpacked₁, _, rfl⟩ := left
  obtain ⟨m₂, e₂, pos₂, unpacked₂, _, rfl⟩ := right
  -- Both summands over the smaller of the two exponents.
  have total : ((m₁ <<< (e₁ - min e₁ e₂).toNat + m₂ <<< (e₂ - min e₁ e₂).toNat : ℕ) : ℚ) *
      2 ^ min e₁ e₂ = m₁ * 2 ^ e₁ + m₂ * 2 ^ e₂ := by
    rw [Nat.cast_add, add_mul, shiftLeft_aligned m₁ (min_le_left _ _),
      shiftLeft_aligned m₂ (min_le_right _ _)]
  have positive : 0 < m₁ <<< (e₁ - min e₁ e₂).toNat + m₂ <<< (e₂ - min e₁ e₂).toNat := by
    rw [Nat.shiftLeft_eq]
    positivity
  rw [← total] at rounds
  change Float.ofModel (Float.Model.pack
    (UnpackedFloat.add .binary64 x.toModel.unpack y.toModel.unpack)) = _
  rw [unpacked₁, unpacked₂]
  change Float.ofModel (Float.Model.pack (UnpackedFloat.normalize .binary64
    (((m₁ <<< (e₁ - min e₁ e₂).toNat : ℕ) : ℤ) + ((m₂ <<< (e₂ - min e₁ e₂).toNat : ℕ) : ℤ))
    (min e₁ e₂) .positive)) = _
  rw [← Nat.cast_add, normalize_of_roundsTo positive canonical rounds]
  exact congrArg (fun u => Float.ofModel (Float.Model.pack u)) (finite_eq_unpacked canonical)

theorem pack_unpack_model (x : Float) : Float.ofModel (Float.Model.pack x.toModel.unpack) = x := by
  rw [← Float.toBits_inj, ← UInt64.toBitVec_inj]
  exact pack_unpack_of_valid x.toModel.valid

theorem Denotes.zero_add (denotes : Denotes x a) : ofNat 0 + x = x := by
  obtain ⟨m, e, pos, unpacked, _⟩ := denotes
  have same := pack_unpack_model x
  change Float.ofModel (Float.Model.pack (UnpackedFloat.add .binary64
    (ofNat 0).toModel.unpack x.toModel.unpack)) = _
  rw [unpacked] at same ⊢
  exact same

theorem Denotes.add_zero (denotes : Denotes x a) : x + ofNat 0 = x := by
  obtain ⟨m, e, pos, unpacked, _⟩ := denotes
  have same := pack_unpack_model x
  change Float.ofModel (Float.Model.pack (UnpackedFloat.add .binary64
    x.toModel.unpack (ofNat 0).toModel.unpack)) = _
  rw [unpacked] at same ⊢
  exact same

theorem Denotes.zero_mul (denotes : Denotes x a) : ofNat 0 * x = ofNat 0 := by
  obtain ⟨m, e, pos, unpacked, _⟩ := denotes
  change Float.ofModel (Float.Model.pack (UnpackedFloat.mul .binary64
    (ofNat 0).toModel.unpack x.toModel.unpack)) = _
  rw [unpacked]
  rfl

private theorem Denotes.mul_zero (denotes : Denotes x a) : x * ofNat 0 = ofNat 0 := by
  obtain ⟨m, e, pos, unpacked, _⟩ := denotes
  change Float.ofModel (Float.Model.pack (UnpackedFloat.mul .binary64
    x.toModel.unpack (ofNat 0).toModel.unpack)) = _
  rw [unpacked]
  rfl

/-- Sums of natural numbers below `2 ^ 53` are exact. -/
theorem ofNat_add (small : m + n < 0x20000000000000) : ofNat m + ofNat n = ofNat (m + n) := by
  rcases Nat.eq_zero_or_pos m with rfl | left <;> rcases Nat.eq_zero_or_pos n with rfl | right
  · rfl
  · rw [(denotes_ofNat right (by omega)).zero_add, Nat.zero_add]
  · rw [(denotes_ofNat left (by omega)).add_zero, Nat.add_zero]
  · have positive := Nat.add_pos_left left n
    rw [ofNat_eq_float positive small]
    refine (denotes_ofNat left (by omega)).add (denotes_ofNat right (by omega))
      (canonical_integerParts false positive small) ?_
    exact_mod_cast roundsTo_natCast false (m + n)

/-- Products of natural numbers below `2 ^ 53` are exact. -/
theorem ofNat_mul (left : m < 0x20000000000000) (right : n < 0x20000000000000)
    (small : m * n < 0x20000000000000) : ofNat m * ofNat n = ofNat (m * n) := by
  rcases Nat.eq_zero_or_pos m with rfl | positive <;> rcases Nat.eq_zero_or_pos n with rfl | positive'
  · rfl
  · rw [(denotes_ofNat positive' right).zero_mul, Nat.zero_mul]
  · rw [(denotes_ofNat positive left).mul_zero, Nat.mul_zero]
  · have product := Nat.mul_pos positive positive'
    rw [ofNat_eq_float product small]
    refine (denotes_ofNat positive left).mul (denotes_ofNat positive' right)
      (canonical_integerParts false product small) ?_
    exact_mod_cast roundsTo_natCast false (m * n)

private theorem sub_self_of_isFinite (finite : isFinite x = true) : x - x = 0 := by
  change Float.ofModel (Float.Model.pack
    (UnpackedFloat.sub .binary64 x.toModel.unpack x.toModel.unpack)) = _
  rw [unpack_of_isFinite finite, Parts.unpacked]
  split
  · cases (parts x).sign <;> rfl
  · simp only [UnpackedFloat.sub, sub_self]
    rfl

end Arithmetic

section Functions

variable {x : Float} {n : ℤ}

theorem lt_iff_unpack_lt (x y : Float) :
    x < y ↔ UnpackedFloat.lt x.toModel.unpack y.toModel.unpack = true :=
  decide_eq_true_iff

theorem IsInt.lt_zero_iff (is : IsInt x n) : x < 0 ↔ n < 0 := by
  have unpacked := unpack_of_isFinite is.isFinite
  have whole := is.whole
  have value := is.2
  have zero := Parts.whole_eq_zero is.isWhole
  have origin : (0 : Float).toModel.unpack = .zero .positive := rfl
  rw [lt_iff_unpack_lt, origin, unpacked, Parts.unpacked]
  split
  case isTrue none =>
    have none := zero.mpr none
    have never : ¬ n < 0 := by omega
    simp [UnpackedFloat.lt, UnpackedFloat.compare, never]
  case isFalse some =>
    have some := mt zero.mp some
    unfold Parts.truncated at value
    cases negative : (parts x).negative with
    | true =>
      have below : n < 0 := by
        rw [negative, if_pos rfl] at value
        omega
      simp [Parts.sign, negative, UnpackedFloat.lt, UnpackedFloat.compare, below]
    | false =>
      have above : ¬ n < 0 := by
        rw [negative, if_neg Bool.false_ne_true] at value
        omega
      simp [Parts.sign, negative, UnpackedFloat.lt, UnpackedFloat.compare, above]

theorem IsInt.abs (is : IsInt x n) : IsInt (abs x) n.natAbs := by
  have value := is.2
  unfold Parts.truncated at value
  rw [Number.abs, signed, ← parts_negative]
  cases negative : (parts x).negative with
  | true =>
    rw [negative, if_pos rfl] at value
    have flipped : -n = n.natAbs := by omega
    exact flipped ▸ is.neg
  | false =>
    rw [negative, if_neg Bool.false_ne_true] at value
    have same : n = n.natAbs := by omega
    exact same ▸ is

theorem IsInt.trunc (is : IsInt x n) : trunc x = x := by
  rw [Number.trunc, is.isFinite, is.isWhole]
  rfl

theorem IsInt.fract (is : IsInt x n) : fract x = 0 := by
  rw [Number.fract, is.trunc, sub_self_of_isFinite is.isFinite]

end Functions

end StackVM.Number

namespace StackVM.Value

variable {n : ℤ} {m : ℕ}

theorem toInt_ofInt (small : n.natAbs < 0x20000000000000) : (Value.ofInt n).toInt = n :=
  (Number.isInt_ofInt small).toInt_of_small small

theorem toInt_ofNat (small : m < 0x20000000000000) : (Value.ofNat m).toInt = m :=
  toInt_ofInt (n := m) small

end StackVM.Value
