import StackVM.Proofs.Json.Token
import StackVM.Proofs.Number.Nearest
import StackVM.Proofs.Number.Shortest

/-! # The text of a finite number reads back

A finite number is written with the digits of its shortest decimal, in positional or in scientific
notation. Reading the text yields a significand and an exponent of the same value, and the nearest
number to that value is the one that was written.
-/

namespace StackVM.Json

open Number (digitsValue decimalDigits WholeDigits Decimal)

variable {ds rest : List Char} {negative : Bool}

section Scanning

private theorem scanExponentDigits_append {n : Nat} (digits : ∀ c ∈ ds, c.isDigit = true)
    (ends : Number.DigitsEnd rest) (small : digitsValue n ds ≤ maxExponent) :
    scanExponentDigits n (ds ++ rest) = ((digitsValue n ds, true), rest) := by
  induction ds generalizing n with
  | nil =>
    cases rest with
    | nil => rfl
    | cons c rest => simp [scanExponentDigits, ends c rfl, digitsValue]
  | cons c ds ih =>
    have next : digitsValue n (c :: ds) = digitsValue (10 * n + (c.toNat - '0'.toNat)) ds := rfl
    have step : 10 * n + (c.toNat - '0'.toNat) ≤ maxExponent :=
      (Number.le_digitsValue _ ds).trans (next ▸ small)
    rw [List.cons_append, scanExponentDigits, if_pos (digits c List.mem_cons_self)]
    simp only [if_pos step]
    exact ih (fun d member => digits d (List.mem_cons_of_mem _ member)) (next ▸ small)

/-- The exponent of scientific notation: its mark, its sign and its digits. -/
def exponentText (e : ℤ) : List Char :=
  ['e', if e < 0 then '-' else '+'] ++ decimalDigits e.natAbs

private theorem digitsEnd_exponentText (e : ℤ) : Number.DigitsEnd (exponentText e ++ rest) :=
  Number.digitsEnd_cons (by decide)

private theorem scanExponent_append (negative : Bool) (significand places : ℕ) {e : ℤ}
    (ends : NumberEnds rest) (small : e.natAbs ≤ maxExponent) :
    scanExponent negative significand places
        ((if e < 0 then '-' else '+') :: (decimalDigits e.natAbs ++ rest)) =
      finiteFloat negative (Number.nearestDecimal significand (e - places)) rest := by
  have digits := scanExponentDigits_append (n := 0) Number.isDigit_of_mem_decimalDigits
    ends.digitsEnd ((Number.digitsValue_decimalDigits e.natAbs).trans_le small)
  rw [Number.digitsValue_decimalDigits] at digits
  obtain ⟨c, cs, written, digit⟩ := Number.decimalDigits_eq_cons e.natAbs
  rw [written, List.cons_append] at digits ⊢
  split_ifs with down
  · simp [scanExponent, digit, digits, abs_of_neg down]
  · simp [scanExponent, digit, digits, abs_of_nonneg (not_lt.mp down)]

/-- The text denotes the rational: it is read as the number nearest to it. -/
structure Scans (text : List Char) (q : ℚ) : Prop where
  starts : ∃ c cs, text = c :: cs ∧ c.isDigit = true
  reads (negative : Bool) (rest : List Char) (ends : NumberEnds rest) :
    ∃ (significand : ℕ) (e : ℤ), (significand : ℚ) * 10 ^ e = q ∧
      scanNumber negative (text ++ rest) =
        finiteFloat negative (Number.nearestDecimal significand e) rest

variable {ws fs : List Char} {e : ℤ}

private theorem scanFraction_point (n : ℕ) (digits : ∀ c ∈ fs, c.isDigit = true) (some : fs ≠ [])
    (ends : NumberEnds rest) :
    scanFraction negative n ('.' :: (fs ++ rest)) =
      finiteFloat negative (Number.nearestDecimal (digitsValue n fs) (-(fs.length : ℤ))) rest := by
  have present : fs.isEmpty = false := by simpa using some
  simp only [scanFraction, Number.spanDigits_append digits ends.digitsEnd, present,
    Bool.false_eq_true, if_false]
  split
  · exact absurd (ends _ rfl).2 (by decide)
  · exact absurd (ends _ rfl).2 (by decide)
  · rfl

private theorem scanFraction_point_exponent (n : ℕ) (digits : ∀ c ∈ fs, c.isDigit = true)
    (some : fs ≠ [])
    (ends : NumberEnds rest) (small : e.natAbs ≤ maxExponent) :
    scanFraction negative n ('.' :: (fs ++ (exponentText e ++ rest))) =
      finiteFloat negative (Number.nearestDecimal (digitsValue n fs) (e - fs.length)) rest := by
  have present : fs.isEmpty = false := by simpa using some
  simp only [scanFraction, Number.spanDigits_append digits (digitsEnd_exponentText e), present,
    Bool.false_eq_true, if_false]
  exact scanExponent_append _ _ _ ends small

theorem scans_fraction (whole : WholeDigits ws) (digits : ∀ c ∈ fs, c.isDigit = true)
    (some : fs ≠ []) :
    Scans (ws ++ '.' :: fs) (digitsValue 0 (ws ++ fs) * 10 ^ (-(fs.length : ℤ))) := by
  refine ⟨whole.starts _, fun negative rest ends => ⟨_, _, rfl, ?_⟩⟩
  rw [List.append_assoc, List.cons_append,
    scanNumber_append negative whole (Number.digitsEnd_cons (by decide)),
    scanFraction_point _ digits some ends, Number.digitsValue_append]

private theorem scans_exponent (whole : WholeDigits ws) (small : e.natAbs ≤ maxExponent) :
    Scans (ws ++ exponentText e) (digitsValue 0 ws * 10 ^ e) := by
  refine ⟨whole.starts _, fun negative rest ends => ⟨_, _, rfl, ?_⟩⟩
  have scanned := scanExponent_append negative (digitsValue 0 ws) 0 ends small
  rw [Nat.cast_zero, sub_zero] at scanned
  rw [List.append_assoc, scanNumber_append negative whole (digitsEnd_exponentText e)]
  exact scanned

private theorem scans_fraction_exponent (whole : WholeDigits ws)
    (digits : ∀ c ∈ fs, c.isDigit = true)
    (some : fs ≠ []) (small : e.natAbs ≤ maxExponent) :
    Scans (ws ++ '.' :: (fs ++ exponentText e))
      (digitsValue 0 (ws ++ fs) * 10 ^ (e - fs.length)) := by
  refine ⟨whole.starts _, fun negative rest ends => ⟨_, _, rfl, ?_⟩⟩
  rw [List.append_assoc, List.cons_append, List.append_assoc,
    scanNumber_append negative whole (Number.digitsEnd_cons (by decide)),
    scanFraction_point_exponent _ digits some ends small, Number.digitsValue_append]

end Scanning

section Numerals

/-- The exponent of the leading digit. -/
def leading (d : Decimal) : ℤ := d.exponent + (decimalDigits d.digits).length - 1

/-- A decimal as a document writes it. -/
def numeral (d : Decimal) : List Char :=
  let ds := decimalDigits d.digits
  if d.digits != 0 && (leading d < -5 || 15 < leading d) then
    ds.take 1 ++ (if (ds.drop 1).isEmpty then [] else '.' :: ds.drop 1) ++ exponentText (leading d)
  else d.positional.1 ++ '.' :: if d.positional.2.isEmpty then ['0'] else d.positional.2

theorem toList_jsonText (x : Float) : (Number.jsonText x).toList =
    Number.signText (Number.parts x).negative ++
      numeral (Number.shortest .even (Number.parts x)) := by
  simp only [Number.jsonText, String.toList_ofList, numeral, leading, exponentText,
    List.append_assoc]
  rfl

theorem isDigit_of_mem_zeros {k : ℕ} : ∀ c ∈ List.replicate k '0', c.isDigit = true := by
  intro c member
  rw [List.eq_of_mem_replicate member]
  decide

private theorem scans_up {d : Decimal} (up : 0 ≤ d.exponent)
    (normal : d.digits = 0 → d.exponent ≤ 0) :
    Scans (decimalDigits d.digits ++ List.replicate d.exponent.toNat '0' ++
      '.' :: List.replicate 1 '0') d.value := by
  have whole : WholeDigits (decimalDigits d.digits ++ List.replicate d.exponent.toNat '0') := by
    rcases Nat.eq_zero_or_pos d.digits with zero | positive
    · have none : d.exponent.toNat = 0 := by
        have := normal zero
        omega
      rw [none, List.replicate_zero, List.append_nil]
      exact Number.wholeDigits_decimalDigits _
    · refine ⟨List.forall_mem_append.mpr ⟨Number.isDigit_of_mem_decimalDigits,
        isDigit_of_mem_zeros⟩, by simp [decimalDigits], fun leading => ?_⟩
      obtain ⟨c, cs, written, _⟩ := Number.decimalDigits_eq_cons d.digits
      have first := Number.head?_decimalDigits_ne_zero positive
      rw [written] at first leading
      exact absurd leading first
  have value : (digitsValue 0 (decimalDigits d.digits ++ List.replicate d.exponent.toNat '0' ++
      List.replicate 1 '0') : ℚ) * 10 ^ (-((List.replicate 1 '0').length : ℤ)) = d.value := by
    rw [Number.digitsValue_append, Number.digitsValue_append, Number.digitsValue_decimalDigits,
      Number.digitsValue_replicate_zero, Number.digitsValue_replicate_zero, Decimal.value,
      Number.zpow_eq_pow_toNat up, List.length_replicate]
    push_cast
    rw [zpow_neg]
    norm_num
    ring
  exact value ▸ scans_fraction whole isDigit_of_mem_zeros (by simp)

private theorem scans_within {d : Decimal} {places : ℕ} (down : d.exponent = -places)
    (some : 0 < places)
    (within : places < (decimalDigits d.digits).length) :
    Scans ((decimalDigits d.digits).take ((decimalDigits d.digits).length - places) ++
      '.' :: (decimalDigits d.digits).drop ((decimalDigits d.digits).length - places)) d.value := by
  have digits := Number.isDigit_of_mem_decimalDigits (n := d.digits)
  have value := Number.digitsValue_decimalDigits d.digits
  have leading := (Number.wholeDigits_decimalDigits d.digits).leading
  generalize decimalDigits d.digits = ds at *
  have whole : WholeDigits (ds.take (ds.length - places)) := by
    refine ⟨fun c member => digits c (List.mem_of_mem_take member), ?_, fun zero => ?_⟩
    · rw [← List.length_pos_iff, List.length_take]
      omega
    · rw [List.head?_take, if_neg (by omega)] at zero
      rw [leading zero, List.length_singleton] at within
      omega
  have fraction := scans_fraction whole
    (fun c member => digits c (List.mem_of_mem_drop (l := ds) (i := ds.length - places) member)) (by
      rw [← List.length_pos_iff, List.length_drop]
      omega)
  rwa [List.take_append_drop, value, List.length_drop, Nat.sub_sub_self within.le, ← down]
    at fraction

private theorem scans_below {d : Decimal} {places : ℕ} (down : d.exponent = -places)
    (below : (decimalDigits d.digits).length ≤ places) :
    Scans (['0'] ++ '.' :: (List.replicate (places - (decimalDigits d.digits).length) '0' ++
      decimalDigits d.digits)) d.value := by
  have value : digitsValue 0 (['0'] ++ (List.replicate
      (places - (decimalDigits d.digits).length) '0' ++ decimalDigits d.digits)) = d.digits := by
    rw [Number.digitsValue_append, Number.digitsValue_append, Number.digitsValue_replicate_zero]
    exact Number.digitsValue_decimalDigits d.digits
  have length : (List.replicate (places - (decimalDigits d.digits).length) '0' ++
      decimalDigits d.digits).length = places := by
    rw [List.length_append, List.length_replicate, Nat.sub_add_cancel below]
  have digits : ∀ c ∈ List.replicate (places - (decimalDigits d.digits).length) '0' ++
      decimalDigits d.digits, c.isDigit = true :=
    List.forall_mem_append.mpr ⟨isDigit_of_mem_zeros, Number.isDigit_of_mem_decimalDigits⟩
  have whole : WholeDigits ['0'] := Number.wholeDigits_decimalDigits 0
  have fraction := scans_fraction whole digits (by simp [decimalDigits])
  rw [length, ← down, value] at fraction
  exact fraction

private theorem scans_positional {d : Decimal} (normal : d.digits = 0 → d.exponent ≤ 0) :
    Scans (d.positional.1 ++ '.' :: if d.positional.2.isEmpty then ['0'] else d.positional.2)
      d.value := by
  by_cases up : 0 ≤ d.exponent
  · simp only [Decimal.positional, if_pos up]
    exact scans_up up normal
  · obtain ⟨places, down⟩ : ∃ places : ℕ, d.exponent = -places := ⟨(-d.exponent).toNat, by omega⟩
    have count : (-d.exponent).toNat = places := by omega
    by_cases within : places < (decimalDigits d.digits).length
    · have present : ((decimalDigits d.digits).drop
          ((decimalDigits d.digits).length - places)).isEmpty = false := by
        rw [List.isEmpty_eq_false_iff, ← List.length_pos_iff, List.length_drop]
        omega
      simp only [Decimal.positional, if_neg up, count, if_pos within, present]
      exact scans_within down (by omega) within
    · have present : (List.replicate (places - (decimalDigits d.digits).length) '0' ++
          decimalDigits d.digits).isEmpty = false := by
        simp [decimalDigits]
      simp only [Decimal.positional, if_neg up, count, if_neg within, present]
      exact scans_below down (not_lt.mp within)

private theorem scans_scientific {d : Decimal} (small : (leading d).natAbs ≤ maxExponent) :
    Scans ((decimalDigits d.digits).take 1 ++ (if ((decimalDigits d.digits).drop 1).isEmpty then []
      else '.' :: (decimalDigits d.digits).drop 1) ++ exponentText (leading d)) d.value := by
  have digits := Number.isDigit_of_mem_decimalDigits (n := d.digits)
  have value := Number.digitsValue_decimalDigits d.digits
  have length : leading d = d.exponent + (decimalDigits d.digits).length - 1 := rfl
  obtain ⟨c, cs, written, digit⟩ := Number.decimalDigits_eq_cons d.digits
  rw [written] at digits value length ⊢
  have whole : WholeDigits [c] := by
    refine ⟨fun b member => List.mem_singleton.mp member ▸ digit, by simp, ?_⟩
    simp
  simp only [List.take_succ_cons, List.take_zero, List.drop_succ_cons, List.drop_zero]
  cases cs with
  | nil =>
    have scanned := scans_exponent whole small
    rw [value] at scanned
    simpa [Decimal.value, length] using scanned
  | cons b cs =>
    have scanned := scans_fraction_exponent whole
      (fun a member => digits a (List.mem_cons_of_mem c member)) (by simp) small
    have exponent : leading d - ((b :: cs).length : ℤ) = d.exponent := by
      rw [length, List.length_cons, List.length_cons]
      push_cast
      ring
    rw [List.singleton_append, List.singleton_append, value, exponent] at scanned
    simpa [Decimal.value] using scanned

private theorem scans_numeral {d : Decimal} (normal : d.digits = 0 → d.exponent ≤ 0)
    (small : (leading d).natAbs ≤ maxExponent) : Scans (numeral d) d.value := by
  unfold numeral
  simp only
  split
  · exact scans_scientific small
  · exact scans_positional normal

end Numerals

section Floats

variable {x : Float} {inner : Option (List Char → Scan Json)}

private theorem scans_shortest (finite : Number.isFinite x = true) :
    Scans (numeral (Number.shortest .even (Number.parts x)))
      (Number.shortest .even (Number.parts x)).value := by
  obtain ⟨normal, least, most⟩ := Number.shortest_bounds .even finite
  refine scans_numeral normal ?_
  rw [leading, maxExponent]
  omega

private theorem finiteFloat_magnitude (finite : Number.isFinite x = true) (rest : List Char) :
    finiteFloat (Number.parts x).negative (Number.magnitude x).float rest =
      .ok (.float x, rest) := by
  rw [finiteFloat, if_pos (Number.isFinite_of_unpack (Number.unpack_magnitude finite)),
    Number.signed_magnitude finite]

/-- The text of a finite number reads back as that number. -/
theorem reads_float (finite : Number.isFinite x = true) :
    ReadsAs (readWith inner) (Number.jsonText x).toList (.float x) := by
  intro rest ends
  obtain ⟨⟨c, cs, written, digit⟩, reads⟩ := scans_shortest finite
  obtain ⟨significand, e, value, scanned⟩ := reads (Number.parts x).negative rest ends
  rw [Number.nearestDecimal_of_shortest finite value, finiteFloat_magnitude finite] at scanned
  rw [toList_jsonText, List.append_assoc]
  cases negative : (Number.parts x).negative with
  | true =>
    rw [negative] at scanned
    exact readWith_minus.trans scanned
  | false =>
    rw [negative] at scanned
    rw [Number.signText, if_neg Bool.false_ne_true, List.nil_append, ← scanned, written]
    exact readWith_digit digit

theorem starts_jsonText (finite : Number.isFinite x = true) :
    Starts (Number.jsonText x).toList := by
  obtain ⟨c, cs, written, digit⟩ := (scans_shortest finite).starts
  rw [toList_jsonText, written]
  cases (Number.parts x).negative with
  | true => exact ⟨_, _, rfl, by decide, by decide⟩
  | false => exact starts_of_isDigit digit

end Floats

end StackVM.Json
