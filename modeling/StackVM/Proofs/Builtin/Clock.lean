import StackVM.Builtin.TimeFunction
import StackVM.Proofs.Number.Digits
import StackVM.Proofs.Number.Plain
import StackVM.Proofs.Number.Text
import StackVM.Proofs.Number.Value

/-!
# Times of day as texts

The text of a number of seconds since midnight is read back as hours, minutes, seconds and a
fraction. Splitting off hours and minutes is exact (`exists_count_and_rest`): the quotient is
rounded, but not across an integer, and what is left is a multiple of the number's last place. The
fraction of a second is rounded to millionths (`exists_millionths`), divided and written as the
shortest digits (`exists_text_millionths`). Only the first of these is off by more than a last
place: by half a millionth.

Fractions from 0.9999995 on are rounded to a million millionths. That carries no second: the text of
the number one, less its leading zeros and point, is the digit 1, and it is read as a tenth.
-/

namespace StackVM.Times

open Number

section Reading

/-- A time of day as it is read. -/
structure Clock where
  hour : ℕ
  minute : ℕ
  second : ℕ
  /-- What goes beyond the whole seconds. -/
  fraction : ℚ
deriving DecidableEq

/-- The seconds since midnight. -/
def Clock.seconds (c : Clock) : ℚ := c.hour * 3600 + c.minute * 60 + c.second + c.fraction

/-- Reads a fraction: nothing at all, or a point and digits. -/
def readFraction? : List Char → Option ℚ
  | [] => some 0
  | '.' :: digits => (readDigits? digits).map fun n => n / 10 ^ digits.length
  | _ => none

/-- Reads hours, minutes and seconds of two digits each, divided by colons, and a fraction. -/
def readClock? (text : String) : Option Clock :=
  match text.toList with
  | h₁ :: h₂ :: ':' :: m₁ :: m₂ :: ':' :: s₁ :: s₂ :: rest => do
    return ⟨← readDigits? [h₁, h₂], ← readDigits? [m₁, m₂], ← readDigits? [s₁, s₂],
      ← readFraction? rest⟩
  | _ => none

private theorem readDigits?_zeros (k n : ℕ) :
    readDigits? (List.replicate k '0' ++ decimalDigits n) = some n := by
  have digits : (List.replicate k '0' ++ decimalDigits n).all Char.isDigit = true := by
    rw [List.all_append, Bool.and_eq_true, List.all_eq_true, List.all_eq_true]
    exact ⟨fun c zero => List.eq_of_mem_replicate zero ▸ rfl, isDigit_of_mem_decimalDigits⟩
  have some : (List.replicate k '0' ++ decimalDigits n).isEmpty = false := by
    simp [decimalDigits_ne_nil]
  rw [readDigits?, digits, some]
  simp [digitsValue_append]

private theorem toList_zeroPadded (width n : ℕ) :
    (zeroPadded width n).toList =
      List.replicate (width - (decimalDigits n).length) '0' ++ decimalDigits n := by
  have sign : ¬ (n : ℤ) < 0 := not_lt.mpr (Int.natCast_nonneg n)
  simp [zeroPadded, integerText, sign]

/-- A number of at most two digits takes two. -/
theorem exists_zeroPadded {n : ℕ} (small : n < 100) :
    ∃ c₁ c₂, (zeroPadded 2 n).toList = [c₁, c₂] ∧ readDigits? [c₁, c₂] = some n := by
  have few : (decimalDigits n).length ≤ 2 :=
    (Nat.length_toDigits_le_iff (by decide) (by decide)).mpr small
  have two : (zeroPadded 2 n).toList.length = 2 := by
    rw [toList_zeroPadded, List.length_append, List.length_replicate]
    omega
  obtain ⟨c₁, c₂, written⟩ := List.length_eq_two.mp two
  refine ⟨c₁, c₂, written, ?_⟩
  rw [← written, toList_zeroPadded, readDigits?_zeros]

/-- What is written with two digits each and a fraction is read as such. -/
theorem readClock?_eq {h m s : ℕ} (hours : h < 100) (minutes : m < 100) (seconds : s < 100)
    {rest : String} {f : ℚ} (fraction : readFraction? rest.toList = some f) :
    readClock? (zeroPadded 2 h ++ ":" ++ zeroPadded 2 m ++ ":" ++ zeroPadded 2 s ++ rest) =
      some ⟨h, m, s, f⟩ := by
  obtain ⟨h₁, h₂, hour, readsHour⟩ := exists_zeroPadded hours
  obtain ⟨m₁, m₂, minute, readsMinute⟩ := exists_zeroPadded minutes
  obtain ⟨s₁, s₂, second, readsSecond⟩ := exists_zeroPadded seconds
  have written : (zeroPadded 2 h ++ ":" ++ zeroPadded 2 m ++ ":" ++ zeroPadded 2 s ++ rest).toList =
      h₁ :: h₂ :: ':' :: m₁ :: m₂ :: ':' :: s₁ :: s₂ :: rest.toList := by
    simp [hour, minute, second]
  rw [readClock?, written]
  simp [readsHour, readsMinute, readsSecond, fraction]

end Reading

section Splitting

variable {x y : Float} {a : ℚ} {d : ℕ}

/-- How often a number goes into a small one is computed exactly, and so is what is left. -/
theorem exists_count_and_rest (is : Is x a) (divisor : IsInt y d) (positive : 0 < d)
    (bounded : d < 0x20000000000000) (small : a < 2 ^ (51 : ℤ)) :
    ∃ (k : ℕ) (b : ℚ), toInt (x / y) = k ∧ Is (x - ofInt k * y) b ∧ b < d ∧ a = k * d + b := by
  have unit : (1 : ℚ) ≤ d := by exact_mod_cast positive
  have fewer : a / d ≤ a := div_le_self is.nonneg unit
  have range : a / d < 2 ^ (1000 : ℤ) :=
    (fewer.trans_lt small).trans (zpow_lt_zpow_right₀ one_lt_two (by norm_num))
  obtain ⟨v, quotient, rounded⟩ := is.div divisor.is (by linarith) range
  have whole := is.floor_div positive small rounded
  have few : v < 2 ^ (51 : ℤ) := by
    have bound : ⌊v⌋₊ + 1 ≤ 0x8000000000000 :=
      whole ▸ (Nat.floor_le_floor fewer).trans_lt (is.floor_lt small)
    refine (Nat.lt_floor_add_one v).trans_le ?_
    norm_num
    exact_mod_cast bound
  have low := Nat.floor_le (div_nonneg is.nonneg (by linarith : (0 : ℚ) ≤ d))
  have high := Nat.lt_floor_add_one (a / d)
  have count : toInt (x / y) = ⌊a / d⌋₊ := by rw [quotient.toInt few, whole]
  generalize ⌊a / d⌋₊ = k at low high count
  rw [le_div_iff₀ (by linarith)] at low
  rw [div_lt_iff₀ (by linarith)] at high
  have product : Is (ofNat k * y) (k * d : ℕ) := by
    have large : k * d < 0x8000000000000 := by
      have bound := low.trans_lt small
      norm_num at bound
      exact_mod_cast bound
    have factor : k ≤ k * d := Nat.le_mul_of_pos_right k positive
    rw [divisor.eq_ofInt (by omega)]
    change Is (ofNat k * ofNat d) _
    rw [ofNat_mul (by omega) bounded (by omega)]
    exact is_ofNat (by omega)
  refine ⟨k, a - (k * d : ℕ), count, is.sub_natCast product (by exact_mod_cast low) small, ?_, ?_⟩
  · push_cast
    linarith
  · push_cast
    ring

end Splitting

section Fractions

variable {x : Float} {f q v : ℚ} {n : ℕ}

theorem is_million : Is 1e6 1000000 :=
  IsInt.is (n := 1000000) ⟨by decide, by decide +kernel⟩

/-- The digits behind the point of a decimal between zero and one. -/
theorem positional_of_lt_one {d : Decimal} (some : 0 < d.digits) (less : d.value < 1) :
    ∃ digits, d.positional = (['0'], digits) ∧ readDigits? digits = .some d.digits ∧
      d.value = d.digits / 10 ^ digits.length := by
  have below : d.exponent < 0 := by
    by_contra above
    have one : (1 : ℚ) ≤ d.digits := by exact_mod_cast some
    have unit : (1 : ℚ) ≤ 10 ^ d.exponent := one_le_zpow₀ (by norm_num) (not_lt.mp above)
    exact absurd less (not_lt.mpr (one_le_mul_of_one_le_of_one_le one unit))
  have value : d.value = d.digits / 10 ^ (-d.exponent).toNat := by
    rw [Decimal.value, zpow_eq_inv_pow_toNat below.le, div_eq_mul_inv]
  have places : (decimalDigits d.digits).length ≤ (-d.exponent).toNat := by
    have small : d.digits < 10 ^ (-d.exponent).toNat := by
      rw [value, div_lt_one (by positivity)] at less
      exact_mod_cast less
    exact (Nat.length_toDigits_le_iff (by decide) (by omega)).mpr small
  refine ⟨List.replicate ((-d.exponent).toNat - (decimalDigits d.digits).length) '0' ++
    decimalDigits d.digits, ?_, readDigits?_zeros _ _, ?_⟩
  · rw [Decimal.positional, if_neg (not_le.mpr below)]
    simp only [if_neg (not_lt.mpr places)]
  · rw [List.length_append, List.length_replicate, Nat.sub_add_cancel places, value]

private theorem isPlainInteger_of_lt_one (is : Is x v) (positive : 0 < v) (less : v < 1) :
    isPlainInteger x = false := by
  rw [isPlainInteger, isInteger, is.finite, Bool.true_and, Bool.and_eq_false_iff]
  left
  by_contra whole
  have same := is.eq_floor (Bool.eq_true_of_not_eq_false whole)
  rw [Nat.floor_eq_zero.mpr less, Nat.cast_zero] at same
  exact positive.ne' same

/-- A number between zero and one is written with a leading zero, a point and digits for it up to
the last place. -/
theorem text_of_lt_one (is : Is x v) (positive : 0 < v) (less : v ≤ 1 - 1 / 2 ^ 53) :
    ∃ digits n, (Number.text x).toList = '0' :: '.' :: digits ∧ readDigits? digits = some n ∧
      |(n : ℚ) / 10 ^ digits.length - v| ≤ 1 / 2 ^ 54 := by
  obtain ⟨canonical, bounded⟩ := is.canonical positive
  have sign := is.sign positive
  have fine : (parts x).exponent ≤ -53 := by
    have self := RoundsTo.self (parts x).significand (parts x).exponent
    rw [is.magnitude] at self
    have last := self.exponent_lt canonical (k := -52) (by norm_num) (less.trans (by norm_num))
    omega
  have rounds := shortest_roundsTo .up canonical bounded
  have close := rounds.abs_sub_le
  have unit : (2 : ℚ) ^ (parts x).exponent ≤ 2 ^ (-53 : ℤ) := zpow_le_zpow_right₀ one_le_two fine
  rw [is.magnitude] at close
  have small : (shortest .up (parts x)).value < 1 := by
    have bound := (abs_le.mp close).2
    norm_num at unit less bound ⊢
    linarith
  obtain ⟨digits, written, reads, value⟩ := positional_of_lt_one (rounds.digits_pos canonical) small
  refine ⟨digits, _, ?_, reads, ?_⟩
  · have present : digits.isEmpty = false := by
      rw [List.isEmpty_eq_false_iff]
      rintro rfl
      simp [readDigits?] at reads
    have less : v < 1 := less.trans_lt (by norm_num)
    rw [Number.text, isNaN_of_isFinite is.finite, is.finite,
      isPlainInteger_of_lt_one is positive less]
    simp [positionalText, written, sign, signText, present]
  · rw [← value]
    refine close.trans ?_
    norm_num at unit ⊢
    linarith

/-- The numbers below 0.9999995 stay away from it. -/
theorem le_of_lt_carry (is : Is x f) (less : f < 9999995 / 10000000) :
    f ≤ 9007194751141364 / 2 ^ 53 := by
  by_cases half : f < 1 / 2
  · norm_num
    linarith
  · have large := not_lt.mp half
    have canonical := (is.canonical (by linarith)).1
    have self := RoundsTo.self (parts x).significand (parts x).exponent
    have magnitude := is.magnitude
    rw [magnitude] at self
    have high := self.exponent_lt canonical (k := -52) (by norm_num) (less.le.trans (by norm_num))
    have low : -54 < (parts x).exponent := by
      have least := large.trans_lt (self.lt_two_zpow canonical)
      have bits : (2 : ℚ) ^ (-1 : ℤ) < 2 ^ (53 + (parts x).exponent) := by
        norm_num at least ⊢
        exact least
      rw [zpow_lt_zpow_iff_right₀ one_lt_two] at bits
      omega
    have last : (parts x).exponent = -53 := by omega
    rw [last] at magnitude
    have most : (parts x).significand < 9007194751141364 + 1 := by
      have bound : ((parts x).significand : ℚ) < 9007194751141364 + 1 := by
        norm_num at magnitude
        linarith
      exact_mod_cast bound
    have most : ((parts x).significand : ℚ) ≤ 9007194751141364 := by
      exact_mod_cast Nat.lt_succ_iff.mp most
    norm_num at magnitude ⊢
    linarith

/-- The last place of the millionths of a fraction is worth at most a thirty-third binary place. -/
theorem millionths_exponent {s : ℕ} {e : ℤ} (canonical : Canonical s e)
    (rounds : RoundsTo (f * 1000000) s e) (less : f < 1) : e ≤ -33 := by
  have bounded : f * 1000000 ≤ (0x10000000000000 - 1 / 2) * 2 ^ (-32 : ℤ) := by
    norm_num
    linarith
  exact Int.le_sub_one_of_lt (rounds.exponent_lt canonical (by norm_num) bounded)

/-- The millionths of a fraction, rounded as numbers are. -/
theorem round_millionths (rounded : Rounded (f * 1000000) v) (some : 9999 / 10000000000 ≤ f)
    (less : f < 1) :
    v ≤ 1000000 ∧ |f * 1000000 - v| ≤ 1 / 2 ^ 34 ∧
      (9999995 / 10000000 ≤ f → 999999 + 1 / 2 ≤ v) := by
  obtain ⟨s, e, canonical, rounds, rfl⟩ := rounded.exists_number <| by
    refine (zpow_lt_zpow_right₀ one_lt_two (by norm_num : -1075 < -1)).trans_le ?_
    norm_num
    linarith
  have fine := millionths_exponent canonical rounds less
  have unit : (2 : ℚ) ^ e ≤ 2 ^ (-33 : ℤ) := zpow_le_zpow_right₀ one_le_two fine
  refine ⟨?_, rounds.abs_sub_le.trans ?_, fun near => ?_⟩
  · exact_mod_cast rounds.le_natCast (k := 1000000) (by omega) (by push_cast; linarith)
  · norm_num at unit ⊢
    linarith
  · -- Half a unit is a multiple of the last place.
    obtain ⟨j, grid⟩ := natCast_eq_mul_zpow 1999999 (by omega : e + 1 ≤ 0)
    rw [zpow_add_one₀ two_ne_zero, ← mul_assoc] at grid
    push_cast at grid
    have half : (999999 : ℚ) + 1 / 2 = j * 2 ^ e := by linarith
    rw [half]
    refine mul_le_mul_of_nonneg_right ?_ (by positivity)
    by_contra below
    have under := rounds.lt_grid (by exact_mod_cast not_le.mp below)
    linarith

private theorem exists_millionths (is : Is x f) (some : 9999 / 10000000000 ≤ f) (less : f < 1) :
    ∃ n : ℕ, Is (round (x * 1e6)) n ∧ 1 ≤ n ∧ |n - f * 1000000| ≤ 1 / 2 + 1 / 2 ^ 34 ∧
      (f < 9999995 / 10000000 → n ≤ 999999) ∧ (9999995 / 10000000 ≤ f → n = 1000000) := by
  have large : (2 : ℚ) ^ (-1022 : ℤ) ≤ f := by
    refine (zpow_le_zpow_right₀ one_le_two (by norm_num : -1022 ≤ -20)).trans ?_
    norm_num
    linarith
  have range : f * 1000000 < 2 ^ (1000 : ℤ) := by
    refine lt_of_lt_of_le ?_ (zpow_le_zpow_right₀ one_le_two (by norm_num : (20 : ℤ) ≤ 1000))
    norm_num
    linarith
  obtain ⟨v, product, rounded⟩ := is.mul is_million large (by norm_num) range
  obtain ⟨most, close, carry⟩ := round_millionths rounded some less
  obtain ⟨below, above⟩ := abs_le.mp close
  have low := Nat.floor_le (a := v + 1 / 2) (by linarith [product.nonneg])
  have high := Nat.lt_floor_add_one (v + 1 / 2)
  have small : v < 2 ^ (51 : ℤ) := most.trans_lt (by norm_num)
  refine ⟨⌊v + 1 / 2⌋₊, product.round small, ?_, ?_, fun far => ?_, fun near => ?_⟩
  · rw [Nat.one_le_floor_iff]
    norm_num at above
    linarith
  · rw [abs_le]
    constructor <;> linarith
  · have edge := le_of_lt_carry is far
    have bound : v + 1 / 2 < (1000000 : ℕ) := by
      norm_num at edge below ⊢
      linarith
    exact Nat.lt_succ_iff.mp ((Nat.floor_lt (by linarith [product.nonneg])).mpr bound)
  · rw [Nat.floor_eq_iff (by linarith [product.nonneg])]
    push_cast
    constructor <;> linarith [carry near]

private theorem dropWhile_point {digits : List Char} {n : ℕ} (reads : readDigits? digits = some n) :
    digits.dropWhile (· == '.') = digits := by
  have all : digits.all Char.isDigit = true := by
    unfold readDigits? at reads
    split_ifs at reads with shape
    simp_all
  cases digits with
  | nil => rfl
  | cons c rest =>
    have digit : c.isDigit = true := List.all_eq_true.mp all c List.mem_cons_self
    have other : (c == '.') = false := by
      rw [beq_eq_false_iff_ne]
      rintro rfl
      exact absurd digit (by decide)
    rw [List.dropWhile_cons, other, if_neg Bool.false_ne_true]

/-- Some millionths, but not all, are written as digits for them. -/
theorem exists_text_millionths (is : Is x n) (some : 1 ≤ n) (most : n ≤ 999999) :
    ∃ digits k, (Number.text (x / 1e6)).toList = '0' :: '.' :: digits ∧
      readDigits? digits = .some k ∧
      |(k : ℚ) / 10 ^ digits.length - n / 1000000| ≤ 1 / 2 ^ 53 := by
  have least : (1 : ℚ) ≤ n := by exact_mod_cast some
  have bound : (n : ℚ) ≤ 999999 := by exact_mod_cast most
  have range : (n : ℚ) / 1000000 < 2 ^ (1000 : ℤ) := by
    refine lt_of_lt_of_le ?_ (zpow_le_zpow_right₀ one_le_two (by norm_num : (0 : ℤ) ≤ 1000))
    norm_num
    linarith
  obtain ⟨v, quotient, rounded⟩ := is.div is_million (by norm_num) range
  obtain ⟨s, e, canonical, rounds, rfl⟩ := rounded.exists_number <| by
    refine (zpow_lt_zpow_right₀ one_lt_two (by norm_num : -1075 < -20)).trans_le ?_
    norm_num
    linarith
  have fine : e < -52 := by
    refine rounds.exponent_lt canonical (by norm_num) ?_
    norm_num
    linarith
  have unit : (2 : ℚ) ^ e ≤ 2 ^ (-53 : ℤ) := zpow_le_zpow_right₀ one_le_two (by omega)
  obtain ⟨below, above⟩ := abs_le.mp rounds.abs_sub_le
  have less : (s : ℚ) * 2 ^ e ≤ 1 - 1 / 2 ^ 53 := by
    norm_num at unit below ⊢
    linarith
  obtain ⟨digits, k, written, reads, close⟩ :=
    text_of_lt_one quotient (mul_pos (by exact_mod_cast canonical.pos) (by positivity)) less
  refine ⟨digits, k, written, reads, ?_⟩
  rw [abs_le] at close ⊢
  norm_num at unit close ⊢
  constructor <;> linarith

/-- The digits of a fraction denote it up to a millionth, unless it is rounded up to a whole second:
then they denote a tenth. -/
theorem exists_fractionText (is : Is x f) (some : 9999 / 10000000000 ≤ f) (less : f < 1) :
    ∃ g, readFraction? ('.' :: (fractionText x).toList) = .some g ∧
      (f < 9999995 / 10000000 → |g - f| ≤ 1 / 1000000) ∧
      (9999995 / 10000000 ≤ f → g = 1 / 10) := by
  obtain ⟨n, rounded, least, close, far, near⟩ := exists_millionths is some less
  by_cases edge : f < 9999995 / 10000000
  · obtain ⟨digits, k, written, reads, exact⟩ := exists_text_millionths rounded least (far edge)
    have kept : (fractionText x).toList = digits := by
      simp [fractionText, written, dropWhile_point reads]
    refine ⟨k / 10 ^ digits.length, ?_, fun _ => ?_, fun high => absurd edge (not_lt.mpr high)⟩
    · rw [kept, readFraction?, reads]
      rfl
    · rw [abs_le] at close exact ⊢
      norm_num at close exact ⊢
      constructor <;> linarith
  · have all := near (not_lt.mp edge)
    have same : round (x * 1e6) = 1e6 := by
      subst all
      exact rounded.unique (by exact_mod_cast is_million) (by norm_num)
    have one : fractionText x = "1" := by
      rw [fractionText, same]
      decide +kernel
    refine ⟨1 / 10, ?_, fun low => absurd low edge, fun _ => rfl⟩
    rw [one]
    rfl

end Fractions

section Assembly

variable {x : Float} {a : ℚ} {h m : ℕ}

private theorem is_negligible : Is 1e-6 (4722366482869645 * 2 ^ (-72 : ℤ)) := by
  have known : parts 1e-6 = ⟨false, 4722366482869645, -72⟩ := by decide
  refine ⟨by decide, ?_, ?_⟩
  · rw [known]
    norm_num
  · rw [known]
    exact fun _ => rfl

/-- A text of a time is read as its parts and a fraction that is close to the one of the seconds. -/
theorem readClock?_timeText (hours : h < 100) (minutes : m < 100) (is : Is x a) (less : a < 60) :
    ∃ g, readClock? (timeText h m x) = some ⟨h, m, ⌊a⌋₊, g⟩ ∧
      (a - ⌊a⌋₊ < 9999995 / 10000000 → |g - (a - ⌊a⌋₊)| ≤ 1 / 1000000) ∧
      (9999995 / 10000000 ≤ a - ⌊a⌋₊ → g = 1 / 10) := by
  have small : a < 2 ^ (51 : ℤ) := less.trans (by norm_num)
  have seconds : ⌊a⌋₊ < 100 := by
    rw [Nat.floor_lt is.nonneg]
    exact less.trans (by norm_num)
  have fraction := is.fract small
  have high := Nat.lt_floor_add_one a
  unfold timeText
  simp only [is.toInt small]
  split_ifs with written
  · rw [is_negligible.lt_iff fraction] at written
    have some : 9999 / 10000000000 ≤ a - ⌊a⌋₊ := by
      norm_num at written ⊢
      linarith
    obtain ⟨g, reads, far, near⟩ := exists_fractionText fraction some (by linarith)
    refine ⟨g, ?_, far, near⟩
    rw [String.append_assoc]
    exact readClock?_eq hours minutes seconds (by simpa using reads)
  · rw [is_negligible.lt_iff fraction] at written
    have negligible := not_lt.mp written
    have nonneg := fraction.nonneg
    norm_num at negligible
    refine ⟨0, ?_, fun _ => ?_, fun near => ?_⟩
    · have none : readFraction? "".toList = some 0 := rfl
      have reads := readClock?_eq hours minutes seconds none
      rwa [String.append_empty] at reads
    · rw [abs_le]
      constructor <;> linarith
    · linarith

private theorem isInt_hour : IsInt 3600.0 3600 := ⟨by decide, by decide⟩

private theorem isInt_minute : IsInt 60.0 60 := ⟨by decide, by decide⟩

private theorem exists_secondsText (is : Is x a) (most : a < 86400) :
    ∃ (h m : ℕ) (y : Float) (b : ℚ), secondsText x = timeText h m y ∧ Is y b ∧ h < 24 ∧ m < 60 ∧
      b < 60 ∧ a = (h * 3600 + m * 60 : ℕ) + b := by
  obtain ⟨h, rest, hours, isRest, less, sum⟩ := exists_count_and_rest is isInt_hour (by norm_num)
    (by norm_num) (most.trans (by norm_num))
  obtain ⟨m, b, minutes, isSeconds, less', sum'⟩ := exists_count_and_rest isRest isInt_minute
    (by norm_num) (by norm_num) (less.trans (by norm_num))
  have nonneg := isRest.nonneg
  have nonneg' := isSeconds.nonneg
  push_cast at less sum less' sum'
  refine ⟨h, m, _, b, ?_, isSeconds, ?_, ?_, less', ?_⟩
  · simp only [secondsText, hours, minutes]
  · have bound : (h : ℚ) < 24 := by linarith
    exact_mod_cast bound
  · have bound : (m : ℚ) < 60 := by linarith
    exact_mod_cast bound
  · push_cast
    linarith

/-- The text of a time of day is read as hours, minutes and seconds within their bounds, and denotes
the time up to a millionth of a second. A fraction that rounds up to a whole second is written as a
tenth instead. -/
theorem time_reads_back (t : Float) (finite : isFinite t = true) (least : 0 ≤ value t)
    (most : value t < 86400) :
    ∃ text clock, TimeFunction.time.apply [.num t] = { value := .str text } ∧
      readClock? text = some clock ∧ clock.hour < 24 ∧ clock.minute < 60 ∧ clock.second < 60 ∧
      (Int.fract (value t) < 9999995 / 10000000 → |clock.seconds - value t| ≤ 1 / 1000000) ∧
      (9999995 / 10000000 ≤ Int.fract (value t) → clock.seconds = ⌊value t⌋ + 1 / 10) := by
  obtain ⟨h, m, y, b, written, is, hours, minutes, seconds, sum⟩ :=
    exists_secondsText (is_value finite least) most
  obtain ⟨g, reads, far, near⟩ :=
    readClock?_timeText (by omega : h < 100) (by omega : m < 100) is seconds
  have fraction : Int.fract (value t) = b - ⌊b⌋₊ := by
    rw [sum, Int.fract_natCast_add, Int.fract, ← natCast_floor_eq_intCast_floor is.nonneg]
  have whole : (⌊value t⌋ : ℚ) = (h * 3600 + m * 60 : ℕ) + ⌊b⌋₊ := by
    rw [← Int.self_sub_fract, fraction, sum]
    ring
  refine ⟨_, _, rfl, written ▸ reads, hours, minutes, ?_, ?_, ?_⟩
  · rw [Nat.floor_lt is.nonneg]
    exact_mod_cast seconds
  · rw [fraction]
    intro low
    have error : Clock.seconds ⟨h, m, ⌊b⌋₊, g⟩ - value t = g - (b - ⌊b⌋₊) := by
      rw [sum, Clock.seconds]
      push_cast
      ring
    rw [error]
    exact far low
  · rw [fraction, whole]
    intro high
    rw [Clock.seconds, near high]
    push_cast
    ring

/-- A quarter of a second after 12:30:15 is written with its fraction. -/
theorem time_reads_back_quarter :
    ∃ text clock, TimeFunction.time.apply [.num 45015.25] = { value := .str text } ∧
      readClock? text = some clock ∧ |clock.seconds - value 45015.25| ≤ 1 / 1000000 := by
  have known : value 45015.25 = 45015.25 := by
    have parts : parts 45015.25 = ⟨false, 6186848850280448, -37⟩ := by decide
    norm_num [value, parts]
  obtain ⟨text, clock, applied, reads, _, _, _, close, _⟩ := time_reads_back 45015.25
    (by decide) (by rw [known]; norm_num) (by rw [known]; norm_num)
  refine ⟨text, clock, applied, reads, close ?_⟩
  rw [known, show (45015.25 : ℚ) = (45015 : ℕ) + 1 / 4 by norm_num, Int.fract_natCast_add]
  norm_num [Int.fract]

/-- Just before a whole second, the text is off by almost a second. -/
theorem time_before_second :
    TimeFunction.time.apply [.num 0.9999999] = { value := .str "00:00:00.1" } ∧
      readClock? "00:00:00.1" = some ⟨0, 0, 0, 1 / 10⟩ ∧
      1 / 2 < |Clock.seconds ⟨0, 0, 0, 1 / 10⟩ - value 0.9999999| := by
  have written : secondsText 0.9999999 = "00:00:00.1" := by decide +kernel
  have known : parts 0.9999999 = ⟨false, 0x1fffffca501acb, -53⟩ := by decide
  refine ⟨?_, by decide +kernel, ?_⟩
  · rw [← written]
    rfl
  · rw [lt_abs]
    right
    norm_num [Clock.seconds, value, known]

end Assembly

end StackVM.Times
