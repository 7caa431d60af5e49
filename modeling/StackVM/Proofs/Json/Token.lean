import StackVM.Json.Reader
import StackVM.Json.Writer
import StackVM.Proofs.Number.Digits

/-! # Words, strings and integers read back

A text reads as a value when a reader takes exactly this text off the front of any longer one. What
follows must not look like the continuation of a number: that is the only token without an end mark.
-/

namespace StackVM.Json

variable {α : Type} {c : Char} {gap cs rest : List Char} {inner : Option (List Char → Scan Json)}

section Blanks

/-- Nothing but blanks. -/
def Blank (gap : List Char) : Prop := ∀ c ∈ gap, isBlank c = true

theorem blank_nil : Blank [] := by simp [Blank]

theorem skipBlanks_cons (visible : isBlank c = false) : skipBlanks (c :: cs) = c :: cs :=
  List.dropWhile_cons_of_neg (by simp [visible])

theorem skipBlanks_append (blank : Blank gap) : skipBlanks (gap ++ cs) = skipBlanks cs :=
  List.dropWhile_append_of_pos blank

theorem readWith_append (blank : Blank gap) : readWith inner (gap ++ cs) = readWith inner cs := by
  unfold readWith
  rw [skipBlanks_append blank]

end Blanks

section Ends

/-- A number does not go on here. -/
def NumberEnds (rest : List Char) : Prop :=
  ∀ c ∈ rest.head?, c.isDigit = false ∧ c ∉ ['.', 'e', 'E']

theorem numberEnds_nil : NumberEnds [] := by simp [NumberEnds]

theorem numberEnds_cons (ends : c.isDigit = false ∧ c ∉ ['.', 'e', 'E']) :
    NumberEnds (c :: rest) := by
  simpa [NumberEnds] using ends

theorem numberEnds_blank (blank : Blank gap) (ends : NumberEnds rest) :
    NumberEnds (gap ++ rest) := by
  cases gap with
  | nil => exact ends
  | cons c gap =>
    have first : isBlank c = true := blank c List.mem_cons_self
    simp only [isBlank, Bool.or_eq_true, beq_iff_eq] at first
    obtain ((rfl | rfl) | rfl) | rfl := first <;> exact numberEnds_cons (by decide)

theorem NumberEnds.digitsEnd (ends : NumberEnds rest) : Number.DigitsEnd rest :=
  fun c head => (ends c head).1

/-- The text does not start with a blank or with the closing bracket of a list. -/
def Starts (text : List Char) : Prop := ∃ c cs, text = c :: cs ∧ isBlank c = false ∧ c ≠ ']'

/-- The reader takes the text off the front of any text at whose rest a number may end. -/
def ReadsAs (reader : List Char → Scan α) (text : List Char) (a : α) : Prop :=
  ∀ rest, NumberEnds rest → reader (text ++ rest) = .ok (a, rest)

end Ends

section Words

theorem reads_null : ReadsAs (readWith inner) "null".toList .null := fun _ _ => rfl

theorem reads_bool (b : Bool) :
    ReadsAs (readWith inner) (if b then "true" else "false").toList (.bool b) := by
  cases b
  · exact fun _ _ => rfl
  · exact fun _ _ => rfl

end Words

section Strings

private theorem hexValue?_control {n : Nat} (control : n < 0x20) :
    hexValue? '0' '0' (Nat.digitChar (n / 16)) (Nat.digitChar (n % 16)) = some n := by
  have table : ∀ i : Fin 32,
      hexValue? '0' '0' (Nat.digitChar (i / 16)) (Nat.digitChar (i % 16)) = some i.val := by
    decide
  exact table ⟨n, control⟩

/-- The escape of a character reads back as that character. -/
theorem scanString_escapeChar (c : Char) (cs : List Char) :
    scanString (escapeChar c ++ cs) = Scan.cons c (scanString cs) := by
  unfold escapeChar
  split
  case h_8 =>
    by_cases control : c.toNat < 0x20
    · have plain : isLowSurrogate c.toNat = false ∧ isHighSurrogate c.toNat = false := by
        simp only [isLowSurrogate, isHighSurrogate, Bool.and_eq_false_iff, decide_eq_false_iff_not]
        omega
      simp [scanString, hexValue?_control control, control, plain]
    · rw [if_neg control, List.singleton_append, scanString, if_neg control]
      all_goals simp_all
  all_goals simp [scanString, escaped?]

theorem scanString_flatMap (cs rest : List Char) :
    scanString (cs.flatMap escapeChar ++ '"' :: rest) = .ok (cs, rest) := by
  induction cs with
  | nil => rw [List.flatMap_nil, List.nil_append, scanString]
  | cons c cs ih =>
    rw [List.flatMap_cons, List.append_assoc, scanString_escapeChar, ih]
    rfl

theorem stringChars_append (s : String) (rest : List Char) :
    stringChars s ++ rest = '"' :: (s.toList.flatMap escapeChar ++ '"' :: rest) := by
  simp [stringChars]

theorem reads_str (s : String) : ReadsAs (readWith inner) (stringChars s) (.str s) := by
  intro rest _
  rw [stringChars_append, readWith, skipBlanks_cons (by decide)]
  simp [scanString_flatMap, Except.map]

end Strings

section Integers

/-- The integers that a document keeps exact. -/
def FitsInt (n : Int) : Prop := -0x8000000000000000 ≤ n ∧ n < 0x10000000000000000

private theorem scanFraction_ends (negative : Bool) (n : Nat) (ends : NumberEnds rest) :
    scanFraction negative n rest = wholeNumber negative n rest := by
  unfold scanFraction
  split
  · exact absurd (ends _ rfl).2 (by decide)
  · exact absurd (ends _ rfl).2 (by decide)
  · exact absurd (ends _ rfl).2 (by decide)
  · rfl

theorem scanNumber_append {ds : List Char} (negative : Bool) (whole : Number.WholeDigits ds)
    (ends : Number.DigitsEnd rest) :
    scanNumber negative (ds ++ rest) = scanFraction negative (Number.digitsValue 0 ds) rest := by
  have span := Number.spanDigits_append whole.digits ends
  obtain ⟨c, cs, rfl⟩ := List.exists_cons_of_ne_nil whole.ne_nil
  by_cases zero : c = '0'
  · subst zero
    obtain rfl : cs = [] := by simpa using whole.leading rfl
    cases rest with
    | nil => rfl
    | cons c rest => simp [scanNumber, ends c rfl, Number.digitsValue]
  · rw [List.cons_append] at span ⊢
    rw [scanNumber, if_pos (whole.digits c List.mem_cons_self), span]
    exact zero

private theorem isBlank_of_isDigit (digit : c.isDigit = true) : isBlank c = false := by
  rw [Bool.eq_false_iff]
  intro blank
  simp only [isBlank, Bool.or_eq_true, beq_iff_eq] at blank
  obtain ((rfl | rfl) | rfl) | rfl := blank <;> exact absurd digit (by decide)

theorem starts_of_isDigit (digit : c.isDigit = true) : Starts (c :: cs) :=
  ⟨c, cs, rfl, isBlank_of_isDigit digit, fun same => absurd (same ▸ digit) (by decide)⟩

theorem readWith_digit (digit : c.isDigit = true) :
    readWith inner (c :: cs) = scanNumber false (c :: cs) := by
  rw [readWith, skipBlanks_cons (isBlank_of_isDigit digit)]
  -- The letters, the sign and the brackets that a value may start with are no digits.
  split
  case h_9 c' cs' _ _ _ _ _ _ _ same =>
    cases same
    rw [if_pos digit]
  all_goals
    rename_i same
    cases same
  all_goals exact absurd digit (by decide)

theorem readWith_minus : readWith inner ('-' :: cs) = scanNumber true cs := rfl

theorem reads_int {n : Int} (fits : FitsInt n) :
    ReadsAs (readWith inner) (Number.integerText n).toList (.int n) := by
  intro rest ends
  obtain ⟨low, high⟩ := fits
  have scanned (negative : Bool) :
      scanNumber negative (Number.decimalDigits n.natAbs ++ rest) =
        wholeNumber negative n.natAbs rest := by
    rw [scanNumber_append negative (Number.wholeDigits_decimalDigits _) ends.digitsEnd,
      Number.digitsValue_decimalDigits, scanFraction_ends negative _ ends]
  by_cases below : n < 0
  · rw [Number.integerText, if_pos below, String.toList_ofList, List.cons_append, readWith_minus,
      scanned, wholeNumber, if_pos rfl, if_pos]
    · rw [Int.ofNat_natAbs_of_nonpos (Int.le_of_lt below), Int.neg_neg]
    · simp only [bne_iff_ne, Bool.and_eq_true, decide_eq_true_eq]
      omega
  · obtain ⟨c, cs, written, digit⟩ := Number.decimalDigits_eq_cons n.natAbs
    have first : readWith inner (Number.decimalDigits n.natAbs ++ rest) =
        scanNumber false (Number.decimalDigits n.natAbs ++ rest) := by
      rw [written]
      exact readWith_digit digit
    rw [Number.integerText, if_neg below, String.toList_ofList, first, scanned, wholeNumber,
      if_neg Bool.false_ne_true, if_pos (by omega), Int.natAbs_of_nonneg (Int.not_lt.mp below)]

theorem starts_integerText (n : Int) : Starts (Number.integerText n).toList := by
  obtain ⟨c, cs, written, digit⟩ := Number.decimalDigits_eq_cons n.natAbs
  unfold Number.integerText
  split
  · rw [String.toList_ofList]
    exact ⟨_, _, rfl, by decide, by decide⟩
  · rw [String.toList_ofList, written]
    exact starts_of_isDigit digit

end Integers

end StackVM.Json
