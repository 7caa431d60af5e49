import StackVM.Builtin.Codec
import StackVM.Proofs.Number.Plain

/-! # Numbers written in a base and read back

`Numeral` says what the digits of a natural number are. Integers below `2 ^ 53` in magnitude are
written as a sign and such digits in every base, also in base ten, which has a printer of its own.
Reading is Horner's rule on numbers; it stays exact as long as the value does. Zeros are filled in
before the sign, and a sign that stands behind a zero is read as one more zero.
-/

namespace StackVM.Radix

open Number (ofNat ofInt signed signText IsInt)

variable {base n d : ℕ} {c : Char} {text rest : List Char}

section Digits

/-- The digits of all bases up to thirty-six, in the order of their values. -/
def alphabet : List Char := "0123456789abcdefghijklmnopqrstuvwxyz".toList

/-- The text holds the digits of a natural number: the most significant one first and no superfluous
zero in front of it. -/
structure Numeral (base n : ℕ) (text : List Char) : Prop where
  ne_nil : text ≠ []
  digits : ∀ c ∈ text, c ∈ alphabet.take base
  leading : text.head? = some '0' → text = ['0']
  value : Nat.ofDigits base (text.reverse.map alphabet.idxOf) = n

private theorem alphabet_getElem? : ∀ d < 36, alphabet[d]? = some (digitChar d) := by decide +kernel

private theorem idxOf_digitChar : ∀ d < 36, alphabet.idxOf (digitChar d) = d := by decide +kernel

private theorem digitChar_ne_zero : ∀ d < 36, d ≠ 0 → digitChar d ≠ '0' := by decide +kernel

theorem digitChar_plain : ∀ d < 36, digitChar d ≠ '.' ∧ digitChar d ≠ '-' ∧
    Text.isBlank (digitChar d) = false := by
  decide

private theorem digitChar_eq : ∀ d < 16, digitChar d = Nat.digitChar d := by decide

private theorem digitChar_mem_take (most : base ≤ 36) (below : d < base) :
    digitChar d ∈ alphabet.take base := by
  apply List.mem_of_getElem? (i := d)
  rw [List.getElem?_take_of_lt below, alphabet_getElem? d (by omega)]

theorem exists_digitChar (most : base ≤ 36) (member : c ∈ alphabet.take base) :
    ∃ d < base, c = digitChar d := by
  obtain ⟨d, found⟩ := List.mem_iff_getElem?.mp member
  have below : d < base := by
    by_contra above
    rw [List.getElem?_take_eq_none (by omega)] at found
    cases found
  rw [List.getElem?_take_of_lt below, alphabet_getElem? d (by omega)] at found
  exact ⟨d, below, (Option.some.inj found).symm⟩

end Digits

section Writing

private theorem natDigits_zero (base : ℕ) : natDigits base 0 = ['0'] := by
  simp [natDigits, digitsBefore]
  rfl

private theorem digitsBefore_eq (two : 2 ≤ base) (positive : 0 < n) {fuel : ℕ}
    (enough : n < base ^ fuel)
    (tail : List Char) :
    digitsBefore base fuel n tail = (Nat.digits base n).reverse.map digitChar ++ tail := by
  induction fuel generalizing n tail with
  | zero =>
    rw [pow_zero] at enough
    omega
  | succ fuel ih =>
    rw [digitsBefore, Nat.digits_def' two positive]
    split_ifs with last
    · simp [last]
    · rw [ih (Nat.pos_of_ne_zero last) (Nat.div_lt_of_lt_mul (by rwa [mul_comm, ← pow_succ]))]
      simp

private theorem natDigits_eq (two : 2 ≤ base) (positive : 0 < n) (small : n < 0x20000000000000) :
    natDigits base n = (Nat.digits base n).reverse.map digitChar := by
  have enough : n < base ^ 64 :=
    (small.trans (by decide)).trans_le (Nat.pow_le_pow_left two 64)
  rw [natDigits, digitsBefore_eq two positive enough, List.append_nil]

theorem numeral_natDigits (two : 2 ≤ base) (most : base ≤ 36) (small : n < 0x20000000000000) :
    Numeral base n (natDigits base n) := by
  rcases Nat.eq_zero_or_pos n with rfl | positive
  · rw [natDigits_zero]
    have zero : alphabet.idxOf '0' = 0 := by decide
    have member : '0' ∈ alphabet.take base := digitChar_mem_take (d := 0) most (by omega)
    exact ⟨by simp, by simpa using member, fun _ => rfl, by simp [zero]⟩
  · rw [natDigits_eq two positive small]
    have below : ∀ d ∈ Nat.digits base n, d < base := fun d => Nat.digits_lt_base two
    have nonempty : Nat.digits base n ≠ [] := Nat.digits_ne_nil_iff_ne_zero.mpr positive.ne'
    refine ⟨by simpa using nonempty, ?_, ?_, ?_⟩
    · intro c member
      obtain ⟨d, inside, rfl⟩ := List.mem_map.mp member
      exact digitChar_mem_take most (below d (List.mem_reverse.mp inside))
    · intro zero
      rw [List.head?_map, List.head?_reverse, List.getLast?_eq_some_getLast nonempty] at zero
      have last := Nat.getLast_digit_ne_zero base positive.ne'
      have least := below _ (List.getLast_mem nonempty)
      exact absurd (Option.some.inj zero) (digitChar_ne_zero _ (by omega) last)
    · have values : ((Nat.digits base n).reverse.map digitChar).reverse.map alphabet.idxOf =
          Nat.digits base n := by
        rw [← List.map_reverse, List.reverse_reverse, List.map_map]
        refine (List.map_congr_left fun d member => ?_).trans (List.map_id _)
        exact idxOf_digitChar d ((below d member).trans_le most)
      rw [values, Nat.ofDigits_digits]

private theorem toDigits_eq (two : 2 ≤ base) (positive : 0 < n) :
    Nat.toDigits base n = (Nat.digits base n).reverse.map Nat.digitChar := by
  induction n using Nat.strong_induction_on with
  | h n ih =>
    rw [Nat.toDigits_eq_if two, Nat.digits_def' two positive]
    split_ifs with less
    · simp [Nat.div_eq_of_lt less, Nat.mod_eq_of_lt less]
    · have rest : 0 < n / base := Nat.div_pos (not_lt.mp less) (by omega)
      rw [ih (n / base) (Nat.div_lt_self positive two) rest]
      simp

/-- Up to base sixteen the digits are those that other printers write. -/
theorem natDigits_eq_toDigits (two : 2 ≤ base) (most : base ≤ 16) (small : n < 0x20000000000000) :
    natDigits base n = Nat.toDigits base n := by
  rcases Nat.eq_zero_or_pos n with rfl | positive
  · rw [natDigits_zero, Nat.toDigits_of_lt_base (by omega)]
    rfl
  · rw [natDigits_eq two positive small, toDigits_eq two positive]
    refine List.map_congr_left fun d member => digitChar_eq d ?_
    have below := Nat.digits_lt_base two (List.mem_reverse.mp member)
    omega

/-- The text of an integer in a base: its sign and the digits of its magnitude. -/
def signedDigits (base : ℕ) (i : ℤ) : List Char :=
  signText (decide (i < 0)) ++ natDigits base i.natAbs

private theorem text_eq {x : Float} {i : ℤ} (is : IsInt x i) (small : i.natAbs < 0x20000000000000) :
    Radix.text base x = signedDigits base i := by
  have negligible : ¬ epsilon < 0 := by decide
  have whole : Number.toNat (Number.trunc (Number.abs x)) = i.natAbs := by
    rw [is.abs.trunc, is.abs.toNat]
    omega
  rw [Radix.text]
  simp only [is.abs.fract, whole, if_neg negligible, is.lt_zero_iff, signedDigits, signText,
    decide_eq_true_eq]
  split_ifs <;> rfl

private theorem text_eq_ten {x : Float} {i : ℤ} (is : IsInt x i)
    (small : i.natAbs < 0x20000000000000) :
    (Number.text x).toList = signedDigits 10 i := by
  rw [is.text small, Number.integerText, signedDigits,
    natDigits_eq_toDigits (by decide) (by decide) small]
  split_ifs with negative <;> simp [signText, negative, Number.decimalDigits]

end Writing

section Values

/-- The value of a character as a digit; anything else counts as zero. -/
def digit (c : Char) : ℕ := (digitValue? c).getD 0

/-- The value of a text in positional notation. -/
def positional (base : ℕ) (text : List Char) : ℕ := Nat.ofDigits base (text.reverse.map digit)

private theorem digit_digitChar : ∀ d < 36, digit (digitChar d) = d := by decide

theorem positional_append (base : ℕ) (text rest : List Char) :
    positional base (text ++ rest) =
      positional base text * base ^ rest.length + positional base rest := by
  rw [positional, List.reverse_append, List.map_append, Nat.ofDigits_append, List.length_map,
    List.length_reverse, positional, positional]
  ring

private theorem positional_singleton (base : ℕ) (c : Char) : positional base [c] = digit c := by
  simp [positional]

/-- Horner's rule. -/
theorem foldl_digit (base start : ℕ) (text : List Char) :
    text.foldl (fun value c => value * base + digit c) start =
      start * base ^ text.length + positional base text := by
  induction text generalizing start with
  | nil => simp [positional]
  | cons c rest ih =>
    have split := positional_append base [c] rest
    rw [positional_singleton, List.singleton_append] at split
    rw [List.foldl_cons, ih, split, List.length_cons, pow_succ]
    ring

private theorem positional_zeros (base k : ℕ) (text : List Char) :
    positional base (List.replicate k '0' ++ text) = positional base text := by
  have zero : digit '0' = 0 := by decide
  rw [positional_append]
  simp [positional, zero, Nat.ofDigits_replicate_zero]

/-- A sign among the digits counts as a zero. -/
theorem positional_signText (base : ℕ) (negative : Bool) (text : List Char) :
    positional base (signText negative ++ text) = positional base text := by
  have zero : digit '-' = 0 := by decide
  cases negative with
  | false => rfl
  | true =>
    rw [positional_append, signText, if_pos rfl, positional_singleton, zero, zero_mul, zero_add]

theorem Numeral.positional (numeral : Numeral base n text) (most : base ≤ 36) :
    positional base text = n := by
  have same : text.reverse.map digit = text.reverse.map alphabet.idxOf := by
    refine List.map_congr_left fun c member => ?_
    obtain ⟨d, below, rfl⟩ := exists_digitChar most (numeral.digits c (List.mem_reverse.mp member))
    rw [digit_digitChar d (by omega), idxOf_digitChar d (by omega)]
  rw [Radix.positional, same, numeral.value]

end Values

section Reading

/-- Horner's rule on numbers is exact as long as the value stays below `2 ^ 53`. -/
theorem foldl_digitNumber (start : ℕ) (positive : 0 < base) (most : base ≤ 36)
    (small : text.foldl (fun value c => value * base + digit c) start < 0x20000000000000) :
    text.foldl (fun value c => value * ofNat base + digitNumber c) (ofNat start) =
      ofNat (text.foldl (fun value c => value * base + digit c) start) := by
  induction text generalizing start with
  | nil => rfl
  | cons c rest ih =>
    rw [List.foldl_cons] at small ⊢
    rw [List.foldl_cons]
    have grows : start * base + digit c < 0x20000000000000 := by
      rw [foldl_digit] at small
      have unit : 1 ≤ base ^ rest.length := Nat.one_le_pow _ _ positive
      nlinarith
    have less : start ≤ start * base := Nat.le_mul_of_pos_right _ positive
    rw [digitNumber, ← digit, Number.ofNat_mul (by omega) (by omega) (by omega),
      Number.ofNat_add grows, ih _ small]

private theorem wholeValue_eq (positive : 0 < base) (most : base ≤ 36)
    (small : positional base text < 0x20000000000000) :
    wholeValue (ofNat base) text = ofNat (positional base text) := by
  have value := foldl_digit base 0 text
  rw [zero_mul, zero_add] at value
  rw [← value] at small ⊢
  exact foldl_digitNumber 0 positive most small

private theorem trimMatching_of_forall {drop : Char → Bool} (kept : ∀ c ∈ text, drop c = false) :
    Text.trimMatching drop text = text := by
  have front : text.dropWhile drop = text :=
    List.dropWhile_eq_self_iff.mpr fun _ => by simp [kept]
  have back : text.reverse.dropWhile drop = text.reverse :=
    List.dropWhile_eq_self_iff.mpr fun _ => by
      simpa using kept _ (List.getElem_mem _)
  rw [Text.trimMatching, front, back, List.reverse_reverse]

/-- A text of digits and minus signs, as padding in front of a negative number makes them. -/
def Plain (text : List Char) : Prop := ∀ c ∈ text, c = '-' ∨ ∃ d < 36, c = digitChar d

private theorem Plain.ne_point (plain : Plain text) : ∀ c ∈ text, c ≠ '.' := by
  intro c member
  obtain rfl | ⟨d, below, rfl⟩ := plain c member
  · decide
  · exact (digitChar_plain d below).1

private theorem Plain.not_blank (plain : Plain text) : ∀ c ∈ text, Text.isBlank c = false := by
  intro c member
  obtain rfl | ⟨d, below, rfl⟩ := plain c member
  · decide
  · exact (digitChar_plain d below).2.2

private theorem plain_signText (negative : Bool) : Plain (signText negative) := by
  cases negative <;> simp [Plain, signText]

private theorem plain_zeros (k : ℕ) : Plain (List.replicate k '0') := by
  intro c member
  rw [List.eq_of_mem_replicate member]
  exact .inr ⟨0, by decide, rfl⟩

theorem Plain.append (plain : Plain text) (more : Plain rest) : Plain (text ++ rest) := by
  intro c member
  exact (List.mem_append.mp member).elim (plain c) (more c)

theorem Numeral.plain (numeral : Numeral base n text) (most : base ≤ 36) : Plain text := by
  intro c member
  obtain ⟨d, below, rfl⟩ := exists_digitChar most (numeral.digits c member)
  exact .inr ⟨d, by omega, rfl⟩

/-- A sign at the front is read as such; the rest, which may hold further signs, by its value. -/
theorem read_eq (negative : Bool) (positive : 0 < base) (most : base ≤ 36) (plain : Plain text)
    (unsigned : text.head? ≠ some '-') (small : positional base text < 0x20000000000000) :
    read base (String.ofList (signText negative ++ text)) =
      signed negative (ofNat (positional base text)) := by
  have trimmed := trimMatching_of_forall ((plain_signText negative).append plain).not_blank
  have whole : text.takeWhile (· != '.') = text :=
    List.takeWhile_eq_self_iff.mpr fun c member => bne_iff_ne.mpr (plain.ne_point c member)
  have fraction : text.dropWhile (· != '.') = [] :=
    List.dropWhile_eq_nil_iff.mpr fun c member => bne_iff_ne.mpr (plain.ne_point c member)
  have total : wholeValue (ofNat base) text + 0.0 = ofNat (positional base text) := by
    rw [wholeValue_eq positive most small]
    exact Number.ofNat_add (n := 0) small
  rw [read, Text.trim, String.toList_ofList, String.toList_ofList, trimmed]
  cases negative with
  | true => simp [signText, whole, fraction, fractionValue, total]
  | false =>
    simp only [signText, Bool.false_eq_true, if_false, List.nil_append]
    split
    · simp at unsigned
    · simp [whole, fraction, fractionValue, total]

theorem Numeral.unsigned (numeral : Numeral base n text) (most : base ≤ 36) :
    text.head? ≠ some '-' := by
  intro sign
  obtain ⟨d, below, same⟩ :=
    exists_digitChar most (numeral.digits '-' (List.mem_of_mem_head? sign))
  exact (digitChar_plain d (by omega)).2.1 same.symm

private theorem signed_natAbs (i : ℤ) : signed (decide (i < 0)) (ofNat i.natAbs) = ofInt i := by
  cases i with
  | ofNat k => rfl
  | negSucc k =>
    rw [decide_eq_true (Int.negSucc_lt_zero k)]
    rfl

variable {i : ℤ}

theorem read_signedDigits (two : 2 ≤ base) (most : base ≤ 36)
    (small : i.natAbs < 0x20000000000000) :
    read base (String.ofList (signedDigits base i)) = ofInt i := by
  have numeral := numeral_natDigits two most small
  have value := numeral.positional most
  rw [signedDigits, read_eq _ (by omega) most (numeral.plain most) (numeral.unsigned most)
    (value.trans_lt small), value, signed_natAbs]

/-- Behind a zero a sign is lost. -/
theorem read_zeros_signedDigits (two : 2 ≤ base) (most : base ≤ 36)
    (small : i.natAbs < 0x20000000000000) (k : ℕ) :
    read base (String.ofList (List.replicate (k + 1) '0' ++ signedDigits base i)) =
      ofInt i.natAbs := by
  have numeral := numeral_natDigits two most small
  have value : positional base (List.replicate (k + 1) '0' ++ signedDigits base i) = i.natAbs := by
    rw [positional_zeros, signedDigits, positional_signText, numeral.positional most]
  have plain : Plain (List.replicate (k + 1) '0' ++ signedDigits base i) :=
    (plain_zeros _).append ((plain_signText _).append (numeral.plain most))
  have unsigned : (List.replicate (k + 1) '0' ++ signedDigits base i).head? ≠ some '-' := by
    simp [List.replicate_succ]
  have magnitude := read_eq false (by omega) most plain unsigned (value.trans_lt small)
  rwa [value] at magnitude

/-- A number is read back from its padded text unless zeros stand in front of its sign. -/
theorem read_zeroPad (two : 2 ≤ base) (most : base ≤ 36) (small : i.natAbs < 0x20000000000000)
    (width : ℕ) :
    read base (String.ofList (zeroPad width (signedDigits base i))) =
      if i < 0 ∧ (signedDigits base i).length < width then ofInt (-i) else ofInt i := by
  rw [zeroPad]
  rcases Nat.eq_zero_or_pos (width - (signedDigits base i).length) with fits | short
  · rw [fits, List.replicate_zero, List.nil_append, read_signedDigits two most small,
      if_neg (by omega)]
  · obtain ⟨k, length⟩ := Nat.exists_eq_succ_of_ne_zero short.ne'
    rw [length, read_zeros_signedDigits two most small]
    split_ifs with negative
    · rw [← Int.ofNat_natAbs_of_nonpos negative.1.le]
    · rw [Int.natAbs_of_nonneg (by omega)]

end Reading

end StackVM.Radix

namespace StackVM.Codecs

open Number (ofInt signText IsInt)
open Radix (signedDigits zeroPad Numeral)

variable {x : Float} {n : ℤ} {b : ℕ}

private theorem isBase_ofNat (two : 2 ≤ b) (most : b ≤ 36) : isBase b = true := by
  rw [isBase, Bool.and_eq_true, decide_eq_true_eq, decide_eq_true_eq]
  omega

theorem toBase_apply (is : IsInt x n) (small : n.natAbs < 0x20000000000000) (two : 2 ≤ b)
    (most : b ≤ 36) (w : Value) :
    Codec.toBase.apply [.num x, .ofNat b, w] =
      ⟨.str (String.ofList (zeroPad (clampWidth "to_base" w.toNumber).1 (signedDigits b n))),
        (clampWidth "to_base" w.toNumber).2⟩ := by
  change toBase x (Value.ofNat b).toInt w.toNumber = _
  have digits : (if (b : ℤ) = 10 then (Number.text x).toList else Radix.text (b : ℤ).toNat x) =
      signedDigits b n := by
    split_ifs with ten
    · obtain rfl : b = 10 := by omega
      exact Radix.text_eq_ten is small
    · exact Radix.text_eq is small
  rw [Value.toInt_ofNat (by omega), toBase, isBase_ofNat two most, digits]
  rfl

theorem fromBase_apply (text : String) (two : 2 ≤ b) (most : b ≤ 36) :
    Codec.fromBase.apply [.str text, .ofNat b] = { value := .num (Radix.read b text) } := by
  change fromBase text (Value.ofNat b).toInt = _
  rw [Value.toInt_ofNat (by omega), fromBase, isBase_ofNat two most]
  rfl

private theorem clampWidth_zero (name : String) :
    clampWidth name (Value.ofNat 0).toNumber = (0, []) := by
  change clampWidth name (Number.ofNat 0) = (0, [])
  have width : Number.ofNat maxWidth < (Double.maximum (Number.ofNat 0) 0.0).toFloat ↔ False := by decide
  have zero : Number.toNat (Double.maximum (Number.ofNat 0) 0.0).toFloat = 0 := by decide
  have number : Number.isNaN (Number.ofNat 0) = false := by decide
  simp only [clampWidth, number, Bool.false_eq_true, if_false, width, zero]

private theorem clampWidth_fst (name other : String) (raw : Float) :
    (clampWidth name raw).1 = (clampWidth other raw).1 := by
  unfold clampWidth
  dsimp only
  split_ifs <;> rfl

private theorem length_clampWidth_snd (name other : String) (raw : Float) :
    (clampWidth name raw).2.length = (clampWidth other raw).2.length := by
  unfold clampWidth
  dsimp only
  split_ifs <;> rfl

private theorem hex_apply (is : IsInt x n) (natural : 0 ≤ n) (small : n < 0x20000000000000)
    (w : Value) :
    Codec.hex.apply [.num x, w] =
      ⟨.str (String.ofList (zeroPad (clampWidth "hex" w.toNumber).1 (signedDigits 16 n))),
        (clampWidth "hex" w.toNumber).2⟩ := by
  have word : Radix.twosComplement n = n.natAbs := by
    rw [Radix.twosComplement, Int.emod_eq_of_lt natural (by omega)]
    omega
  have integer : Number.toInt x = n := is.toInt_of_small (by omega)
  change Reply.mk (.str (Radix.hex (Number.toInt x) (clampWidth "hex" w.toNumber).1)) _ = _
  rw [integer, Radix.hex, word, signedDigits, decide_eq_false (by omega),
    Radix.natDigits_eq_toDigits (by decide) (by decide) (by omega)]
  rfl

theorem toBase_apply_zero (is : IsInt x n) (small : n.natAbs < 0x20000000000000) (two : 2 ≤ b)
    (most : b ≤ 36) :
    Codec.toBase.apply [.num x, .ofNat b, .ofNat 0] =
      { value := .str (String.ofList (signedDigits b n)) } := by
  rw [toBase_apply is small two most, clampWidth_zero, zeroPad, Nat.zero_sub,
    List.replicate_zero, List.nil_append]

/-- An integer below `2 ^ 53` in magnitude is written as its sign and its digits in every base, base
ten included, without superfluous zeros, and read back from them. In base sixteen a natural number has
the same text as in hexadecimal notation, filled up to any width. -/
theorem toBase_fromBase_round_trip :
    (∀ (x : Float) (n : ℤ) (b : ℕ), IsInt x n → n.natAbs < 0x20000000000000 → 2 ≤ b → b ≤ 36 →
      ∃ digits, Numeral b n.natAbs digits ∧
        Codec.toBase.apply [.num x, .ofNat b, .ofNat 0] =
          { value := .str (String.ofList (signText (decide (n < 0)) ++ digits)) } ∧
        Codec.fromBase.apply [(Codec.toBase.apply [.num x, .ofNat b, .ofNat 0]).value, .ofNat b] =
          { value := .ofInt n } ∧
        (Value.ofInt n == .num x) = true) ∧
    (∀ (x : Float) (n : ℤ) (w : Value), IsInt x n → 0 ≤ n → n < 0x20000000000000 →
      (Codec.toBase.apply [.num x, .ofNat 16, w]).value = (Codec.hex.apply [.num x, w]).value ∧
      (Codec.toBase.apply [.num x, .ofNat 16, w]).warnings.length =
        (Codec.hex.apply [.num x, w]).warnings.length) := by
  constructor
  · intro x n b is small two most
    refine ⟨_, Radix.numeral_natDigits two most small, toBase_apply_zero is small two most, ?_, is.beq⟩
    rw [toBase_apply_zero is small two most, fromBase_apply _ two most,
      Radix.read_signedDigits two most small]
    rfl
  · intro x n w is natural small
    rw [toBase_apply is (by omega) (by decide) (by decide), hex_apply is natural small,
      clampWidth_fst "to_base" "hex"]
    exact ⟨rfl, length_clampWidth_snd _ _ _⟩

theorem toBase_fromBase_round_trip_negative :
    IsInt (ofInt (-1295)) (-1295) ∧
    (∃ digits, Numeral 36 1295 digits ∧
      Codec.toBase.apply [.num (ofInt (-1295)), .ofNat 36, .ofNat 0] =
        { value := .str (String.ofList ('-' :: digits)) } ∧
      Codec.fromBase.apply
          [(Codec.toBase.apply [.num (ofInt (-1295)), .ofNat 36, .ofNat 0]).value, .ofNat 36] =
        { value := .ofInt (-1295) } ∧
      (Value.ofInt (-1295) == .num (ofInt (-1295))) = true) ∧
    IsInt (ofInt 255) 255 ∧
    (Codec.toBase.apply [.num (ofInt 255), .ofNat 16, .str "4"]).value =
      (Codec.hex.apply [.num (ofInt 255), .str "4"]).value := by
  have negative : IsInt (ofInt (-1295)) (-1295) := Number.isInt_ofInt (by decide)
  have natural : IsInt (ofInt 255) 255 := Number.isInt_ofInt (by decide)
  obtain ⟨bases, hexadecimal⟩ := toBase_fromBase_round_trip
  exact ⟨negative, bases _ _ 36 negative (by decide) (by decide) (by decide), natural,
    (hexadecimal _ _ (.str "4") natural (by decide) (by decide)).1⟩

/-- Zeros that fill up the text of an integer leave its number unchanged if it is natural or if its text
is wide enough already. The zeros are put before the sign, so a negative integer with a shorter text
reads back as its magnitude. -/
theorem fromBase_toBase_padded (x : Float) (n : ℤ) (b : ℕ) (w : Value) (is : IsInt x n)
    (small : n.natAbs < 0x20000000000000) (two : 2 ≤ b) (most : b ≤ 36) :
    (Codec.toBase.apply [.num x, .ofNat b, .ofNat 0]).value =
      .str (String.ofList (signedDigits b n)) ∧
    (Codec.toBase.apply [.num x, .ofNat b, w]).value =
      .str (String.ofList (zeroPad (clampWidth "to_base" w.toNumber).1 (signedDigits b n))) ∧
    Codec.fromBase.apply [(Codec.toBase.apply [.num x, .ofNat b, .ofNat 0]).value, .ofNat b] =
      { value := .ofInt n } ∧
    Codec.fromBase.apply [(Codec.toBase.apply [.num x, .ofNat b, w]).value, .ofNat b] =
      { value := .ofInt
          (if n < 0 ∧ (signedDigits b n).length < (clampWidth "to_base" w.toNumber).1 then -n
          else n) } := by
  rw [toBase_apply_zero is small two most, toBase_apply is small two most,
    fromBase_apply _ two most, fromBase_apply _ two most, Radix.read_signedDigits two most small,
    Radix.read_zeroPad two most small, ← apply_ite ofInt]
  exact ⟨rfl, rfl, rfl, rfl⟩

theorem fromBase_toBase_padded_negative :
    IsInt (ofInt (-255)) (-255) ∧ (signedDigits 16 (-255)).length = 3 ∧
    (clampWidth "to_base" (Value.ofNat 3).toNumber).1 = 3 ∧
    Codec.fromBase.apply
        [(Codec.toBase.apply [.num (ofInt (-255)), .ofNat 16, .ofNat 3]).value, .ofNat 16] =
      { value := .ofInt (-255) } := by
  have is : IsInt (ofInt (-255)) (-255) := Number.isInt_ofInt (by decide)
  have length : (signedDigits 16 (-255)).length = 3 := by decide
  have width : (clampWidth "to_base" (Value.ofNat 3).toNumber).1 = 3 := by decide
  obtain ⟨-, -, -, padded⟩ :=
    fromBase_toBase_padded _ _ 16 (.ofNat 3) is (by decide) (by decide) (by decide)
  rw [width, length, if_neg (by decide)] at padded
  exact ⟨is, length, width, padded⟩

/-- Filled up to width five, `-255` becomes `00-ff` in base sixteen, which reads as `255`. -/
theorem padding_loses_sign :
    (Codec.toBase.apply [.ofInt (-255), .ofNat 16, .ofNat 5]).value = .str "00-ff" ∧
    Codec.fromBase.apply
        [(Codec.toBase.apply [.ofInt (-255), .ofNat 16, .ofNat 5]).value, .ofNat 16] =
      { value := .ofInt 255 } ∧
    Codec.fromBase.apply
        [(Codec.toBase.apply [.ofInt (-255), .ofNat 16, .ofNat 0]).value, .ofNat 16] =
      { value := .ofInt (-255) } ∧
    ofInt 255 ≠ ofInt (-255) := by
  have is : IsInt (ofInt (-255)) (-255) := Number.isInt_ofInt (by decide)
  have length : (signedDigits 16 (-255)).length = 3 := by decide
  have width : (clampWidth "to_base" (Value.ofNat 5).toNumber).1 = 5 := by decide
  have differ : ofInt 255 ≠ ofInt (-255) := by decide
  rw [Value.ofInt, toBase_apply_zero is (by decide) (by decide) (by decide),
    toBase_apply is (by decide) (by decide) (by decide), fromBase_apply _ (by decide) (by decide),
    fromBase_apply _ (by decide) (by decide), Radix.read_signedDigits (by decide) (by decide) (by decide),
    Radix.read_zeroPad (by decide) (by decide) (by decide), width, length]
  exact ⟨rfl, rfl, rfl, differ⟩

end StackVM.Codecs
