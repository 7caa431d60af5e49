import Mathlib
import StackVM.Number.Text

/-! # The texts of numbers

Equal numbers have equal texts. Every text is made of digits, points and signs, or it is one of the
three words for NaN and the infinities.

The lemmas on `Float` itself come only with the library as a whole.
-/

namespace StackVM.Number

/-- Numbers that compare as equal are the same or both zeros, and the zeros have one text. -/
theorem text_eq_of_beq {x y : Float} (equal : (x == y) = true) : text x = text y := by
  have zeros : text 0 = text (-0) := by decide
  obtain ⟨_, _, rfl | ⟨rfl, rfl⟩ | ⟨rfl, rfl⟩⟩ := Float.beq_iff_ne_nan_and_eq.mp equal
  · rfl
  · exact zeros
  · exact zeros.symm

section Characters

variable {c : Char}

/-- A digit, a point or a sign. -/
def isNumeral (c : Char) : Bool := c.isDigit || c == '.' || c == '-'

private theorem isNumeral_of_mem_decimalDigits {n : Nat} (member : c ∈ decimalDigits n) :
    isNumeral c = true := by
  have digit : c.isDigit = true := Nat.isDigit_of_mem_toDigits (by decide) (by decide) member
  simp [isNumeral, digit]

private theorem isNumeral_of_mem_integerText {n : Int} (member : c ∈ (integerText n).toList) :
    isNumeral c = true := by
  unfold integerText at member
  split_ifs at member with negative
  · rw [String.toList_ofList] at member
    obtain rfl | digit := List.mem_cons.mp member
    · rfl
    · exact isNumeral_of_mem_decimalDigits digit
  · rw [String.toList_ofList] at member
    exact isNumeral_of_mem_decimalDigits member

private theorem isNumeral_of_mem_replicate {k : Nat} (member : c ∈ List.replicate k '0') :
    isNumeral c = true := by
  obtain rfl := List.eq_of_mem_replicate member
  rfl

private theorem isNumeral_of_mem_positional {d : Decimal}
    (member : c ∈ d.positional.1 ∨ c ∈ d.positional.2) : isNumeral c = true := by
  unfold Decimal.positional at member
  dsimp only at member
  split_ifs at member with whole short
  · obtain digit | none := member
    · obtain digit | zero := List.mem_append.mp digit
      · exact isNumeral_of_mem_decimalDigits digit
      · exact isNumeral_of_mem_replicate zero
    · cases none
  · obtain front | back := member
    · exact isNumeral_of_mem_decimalDigits (List.mem_of_mem_take front)
    · exact isNumeral_of_mem_decimalDigits (List.mem_of_mem_drop back)
  · obtain zero | back := member
    · exact @isNumeral_of_mem_replicate c 1 zero
    · obtain zero | digit := List.mem_append.mp back
      · exact isNumeral_of_mem_replicate zero
      · exact isNumeral_of_mem_decimalDigits digit

private theorem isNumeral_of_mem_positionalText {x : Float}
    (member : c ∈ (positionalText x).toList) :
    isNumeral c = true := by
  simp only [positionalText, String.toList_ofList, List.mem_append] at member
  obtain (sign | whole) | fraction := member
  · unfold signText at sign
    split_ifs at sign
    · obtain rfl := List.mem_singleton.mp sign
      rfl
    · cases sign
  · exact isNumeral_of_mem_positional (.inl whole)
  · split_ifs at fraction
    · cases fraction
    · obtain rfl | digit := List.mem_cons.mp fraction
      · rfl
      · exact isNumeral_of_mem_positional (.inr digit)

theorem decimalDigits_ne_nil (n : Nat) : decimalDigits n ≠ [] := Nat.toDigits_ne_nil

private theorem integerText_ne_nil (n : Int) : (integerText n).toList ≠ [] := by
  unfold integerText
  split_ifs
  · simp
  · simpa using decimalDigits_ne_nil n.natAbs

private theorem positional_ne_nil (d : Decimal) : d.positional.1 ≠ [] := by
  have digits := decimalDigits_ne_nil d.digits
  unfold Decimal.positional
  dsimp only
  split_ifs with whole short
  · simp [digits]
  · rw [ne_eq, List.take_eq_nil_iff]
    exact not_or.mpr ⟨by omega, digits⟩
  · simp

/-- The text of a number is a word or a non-empty row of digits, points and signs. -/
theorem text_shape (x : Float) : text x ∈ ["nan", "inf", "-inf"] ∨
    ((text x).toList ≠ [] ∧ ∀ c ∈ (text x).toList, isNumeral c = true) := by
  unfold text
  split_ifs
  · simp
  · simp
  · simp
  · exact .inr ⟨integerText_ne_nil _, fun c => isNumeral_of_mem_integerText⟩
  · refine .inr ⟨?_, fun c => isNumeral_of_mem_positionalText⟩
    simp [positionalText, positional_ne_nil]

end Characters

end StackVM.Number
