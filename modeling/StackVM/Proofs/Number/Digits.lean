import Mathlib.Algebra.Group.Nat.Defs
import StackVM.Number.Reading
import StackVM.Number.Text

/-! # Decimal digits denote the number they were written for -/

namespace StackVM.Number

variable {ds rest : List Char}

/-- No digit comes next. -/
def DigitsEnd (rest : List Char) : Prop := ∀ c ∈ rest.head?, c.isDigit = false

theorem digitsEnd_cons {c : Char} (stop : c.isDigit = false) : DigitsEnd (c :: rest) := by
  simpa [DigitsEnd] using stop

theorem spanDigits_append (digits : ∀ c ∈ ds, c.isDigit = true) (ends : DigitsEnd rest) :
    spanDigits (ds ++ rest) = (ds, rest) := by
  have none : rest.takeWhile Char.isDigit = [] ∧ rest.dropWhile Char.isDigit = rest := by
    cases rest with
    | nil => exact ⟨rfl, rfl⟩
    | cons c rest =>
      have stop : ¬ c.isDigit = true := by simp [ends c rfl]
      exact ⟨List.takeWhile_cons_of_neg stop, List.dropWhile_cons_of_neg stop⟩
  rw [spanDigits, List.takeWhile_append_of_pos digits, List.dropWhile_append_of_pos digits, none.1,
    none.2, List.append_nil]

theorem isDigit_of_mem_decimalDigits {n : Nat} : ∀ c ∈ decimalDigits n, c.isDigit = true :=
  fun _ member => Nat.isDigit_of_mem_toDigits (by decide) (by decide) member

theorem decimalDigits_eq_cons (n : Nat) : ∃ c cs, decimalDigits n = c :: cs ∧ c.isDigit = true := by
  obtain ⟨c, cs, written⟩ := List.exists_cons_of_ne_nil (Nat.toDigits_ne_nil (n := n) (b := 10))
  refine ⟨c, cs, written, isDigit_of_mem_decimalDigits (n := n) c ?_⟩
  rw [decimalDigits, written]
  exact List.mem_cons_self

@[simp]
theorem digitsValue_decimalDigits (n : Nat) : digitsValue 0 (decimalDigits n) = n :=
  Nat.ofDigitChars_ten_toDigits

theorem digitsValue_append (n : Nat) (ds es : List Char) :
    digitsValue n (ds ++ es) = digitsValue (digitsValue n ds) es :=
  Nat.ofDigitChars_append n

@[simp]
theorem digitsValue_replicate_zero (n k : Nat) :
    digitsValue n (List.replicate k '0') = 10 ^ k * n :=
  Nat.ofDigitChars_replicate_zero

/-- Only zero is written with a leading zero. -/
theorem head?_decimalDigits_ne_zero {n : Nat} (positive : 0 < n) :
    (decimalDigits n).head? ≠ some '0' := by
  induction n using Nat.strongRecOn with
  | ind n ih =>
    unfold decimalDigits
    by_cases small : n < 10
    · rw [Nat.toDigits_of_lt_base small]
      simpa using Nat.ne_of_gt positive
    · have shorter := ih (n / 10) (by omega) (by omega)
      obtain ⟨c, cs, written, _⟩ := decimalDigits_eq_cons (n / 10)
      rw [written] at shorter
      rw [decimalDigits] at written
      rw [Nat.toDigits_of_base_le (by decide) (Nat.le_of_not_lt small), written]
      exact shorter

/-- Digits, at least one of them, without a superfluous leading zero. -/
structure WholeDigits (ds : List Char) : Prop where
  digits : ∀ c ∈ ds, c.isDigit = true
  ne_nil : ds ≠ []
  leading : ds.head? = some '0' → ds = ['0']

theorem WholeDigits.starts (whole : WholeDigits ds) (rest : List Char) :
    ∃ c cs, ds ++ rest = c :: cs ∧ c.isDigit = true := by
  obtain ⟨c, cs, rfl⟩ := List.exists_cons_of_ne_nil whole.ne_nil
  exact ⟨c, cs ++ rest, rfl, whole.digits c List.mem_cons_self⟩

theorem wholeDigits_decimalDigits (n : Nat) : WholeDigits (decimalDigits n) := by
  refine ⟨isDigit_of_mem_decimalDigits, Nat.toDigits_ne_nil, fun zero => ?_⟩
  rcases Nat.eq_zero_or_pos n with rfl | positive
  · exact Nat.toDigits_zero 10
  · exact absurd zero (head?_decimalDigits_ne_zero positive)

theorem le_digitsValue (n : Nat) (ds : List Char) : n ≤ digitsValue n ds := by
  induction ds generalizing n with
  | nil => exact Nat.le_refl n
  | cons c ds ih => exact Nat.le_trans (by omega) (ih (10 * n + (c.toNat - '0'.toNat)))

end StackVM.Number
