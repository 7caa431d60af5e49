import StackVM.Builtin.Operator
import StackVM.Proofs.Number.Exact
import StackVM.Proofs.Value.Equality
import StackVM.Proofs.Value.Sorting

/-! # The relational operators

Two numbers are compared as numbers and any other two values by their texts, so that a comparison
fails only between numbers one of which is NaN. To exchange the operands is to reverse the outcome:
the four operators mirror one another, and whatever can be compared is less, greater or both at most
and at least the other.
-/

namespace StackVM

namespace Number

open Float.Model (UnpackedFloat)

/-- Magnitudes are compared by their exponents and then by their significands. -/
theorem magnitude_swap (d e : ℤ) (m n : ℕ) :
    (compare e d).then (compare n m) = ((compare d e).then (compare m n)).swap := by
  rw [Ordering.swap_then, Std.OrientedOrd.eq_swap (a := e), Std.OrientedOrd.eq_swap (a := n)]

private theorem unpacked_compare_swap (a b : UnpackedFloat) :
    b.compare a = (a.compare b).map .swap := by
  rcases a with (_ | _) | _ | (_ | _) | ⟨_ | _, m, d, _⟩ <;>
    rcases b with (_ | _) | _ | (_ | _) | ⟨_ | _, n, e, _⟩
  case finite.negative.finite.negative =>
    exact congrArg (fun order => some order.swap) (magnitude_swap d e m n)
  case finite.positive.finite.positive => exact congrArg some (magnitude_swap d e m n)
  -- everywhere else kinds and signs decide
  all_goals rfl

private theorem unpacked_compare_eq_none_iff {a b : UnpackedFloat} :
    a.compare b = none ↔ a = .notANumber ∨ b = .notANumber := by
  rcases a with (_ | _) | _ | (_ | _) | ⟨_ | _, m, d, _⟩ <;>
    rcases b with (_ | _) | _ | (_ | _) | ⟨_ | _, n, e, _⟩ <;>
    simp [UnpackedFloat.compare]

private theorem compare?_eq_unpacked (x y : Float) :
    compare? x y = x.toModel.unpack.compare y.toModel.unpack := by
  have equal : (x == y) = x.toModel.unpack.beq y.toModel.unpack := rfl
  simp only [compare?, lt_iff_unpack_lt, equal, UnpackedFloat.lt, UnpackedFloat.beq,
    unpacked_compare_swap x.toModel.unpack y.toModel.unpack]
  rcases x.toModel.unpack.compare y.toModel.unpack with _ | _ | _ | _ <;> rfl

private theorem compare?_swap (x y : Float) : compare? y x = (compare? x y).map .swap := by
  rw [compare?_eq_unpacked, compare?_eq_unpacked, unpacked_compare_swap]

private theorem unpack_eq_notANumber_iff {x : Float} :
    x.toModel.unpack = .notANumber ↔ isNaN x = true := by
  rw [isNaN_iff_eq_nan, ← Float.toBits_inj, ← UInt64.toBitVec_inj]
  exact UnpackedFloat.unpack_eq_notANumber_iff_of_valid x.toModel.valid

private theorem compare?_eq_none_iff {x y : Float} :
    compare? x y = none ↔ isNaN x = true ∨ isNaN y = true := by
  rw [compare?_eq_unpacked, unpacked_compare_eq_none_iff, unpack_eq_notANumber_iff,
    unpack_eq_notANumber_iff]

end Number

namespace Value

variable {a b : Value}

/-- Both values are numbers and one of them is NaN. -/
def Incomparable (a b : Value) : Prop :=
  ∃ x y, a = .num x ∧ b = .num y ∧ (x.isNaN = true ∨ y.isNaN = true)

/-- Values that are not both numbers are compared by their texts. -/
theorem compare?_of_texts (texts : ¬ ∃ x y, a = .num x ∧ b = .num y) :
    compare? a b = some (compare a.text b.text) := by
  cases a <;> cases b
  case num.num x y => exact absurd ⟨x, y, rfl, rfl⟩ texts
  all_goals simp only [compare?, comparable, scalarize, compareText_eq_compare, text]

/-- Exchanging the operands reverses the outcome. -/
theorem compare?_swap (a b : Value) : compare? b a = (compare? a b).map .swap := by
  by_cases numbers : ∃ x y, a = .num x ∧ b = .num y
  · obtain ⟨x, y, rfl, rfl⟩ := numbers
    exact Number.compare?_swap x.toFloat y.toFloat
  · have exchanged : ¬ ∃ y x, b = .num y ∧ a = .num x := by
      rintro ⟨y, x, hb, ha⟩
      exact numbers ⟨x, y, ha, hb⟩
    rw [compare?_of_texts numbers, compare?_of_texts exchanged, Std.OrientedOrd.eq_swap (a := b.text)]
    rfl

private theorem compare?_eq_none_iff : compare? a b = none ↔ Incomparable a b := by
  by_cases numbers : ∃ x y, a = .num x ∧ b = .num y
  · obtain ⟨x, y, rfl, rfl⟩ := numbers
    simp only [Incomparable, num.injEq, ↓existsAndEq, true_and]
    exact Number.compare?_eq_none_iff
  · rw [compare?_of_texts numbers]
    refine iff_of_false (Option.some_ne_none _) ?_
    rintro ⟨x, y, ha, hb, -⟩
    exact numbers ⟨x, y, ha, hb⟩

/-- Relational comparison is coherent. Comparing two values the other way round gives the mirror
image, so that `less` and `greater`, `lessEqual` and `greaterEqual` exchange with their operands. Of
two values one is less than the other, greater, or at once at most and at least the other, and only
one of these, unless both are numbers and one of them is NaN: then all four operators say no. -/
theorem comparison_coherent (a b : Value) :
    compare? b a = (compare? a b).map .swap ∧
    BinaryOperator.less.apply a b = BinaryOperator.greater.apply b a ∧
    BinaryOperator.lessEqual.apply a b = BinaryOperator.greaterEqual.apply b a ∧
    ∃ less greater lessEqual greaterEqual : Bool,
      BinaryOperator.less.apply a b = { value := .bool less } ∧
      BinaryOperator.greater.apply a b = { value := .bool greater } ∧
      BinaryOperator.lessEqual.apply a b = { value := .bool lessEqual } ∧
      BinaryOperator.greaterEqual.apply a b = { value := .bool greaterEqual } ∧
      (¬ Incomparable a b → [less, greater, lessEqual && greaterEqual].count true = 1) ∧
      (Incomparable a b →
        less = false ∧ greater = false ∧ lessEqual = false ∧ greaterEqual = false) := by
  have mirrored := compare?_swap a b
  refine ⟨mirrored, ?_, ?_, _, _, _, _, rfl, rfl, rfl, rfl, ?_, ?_⟩
  · simp only [BinaryOperator.apply, mirrored]
    rcases compare? a b with _ | _ | _ | _ <;> rfl
  · simp only [BinaryOperator.apply, mirrored]
    rcases compare? a b with _ | _ | _ | _ <;> rfl
  · intro comparable
    obtain ⟨order, found⟩ := Option.ne_none_iff_exists'.mp (mt compare?_eq_none_iff.mp comparable)
    rw [found]
    cases order <;> rfl
  · intro incomparable
    rw [compare?_eq_none_iff.mpr incomparable]
    decide

theorem comparison_coherent_mixed :
    ¬ Incomparable (.num 10) (.str "9") ∧
    BinaryOperator.less.apply (.num 10) (.str "9") = { value := .bool true } ∧
    BinaryOperator.greater.apply (.str "9") (.num 10) = { value := .bool true } ∧
    BinaryOperator.greater.apply (.num 10) (.str "9") = { value := .bool false } ∧
    Incomparable (.num 10) (.num Number.nan) ∧
    BinaryOperator.lessEqual.apply (.num 10) (.num Number.nan) = { value := .bool false } := by
  have texts : ¬ Incomparable (.num 10) (.str "9") := by
    rintro ⟨x, y, -, text, -⟩
    cases text
  have nan : Incomparable (.num 10) (.num Number.nan) := ⟨_, _, rfl, rfl, .inr (by decide)⟩
  have order : compare? (.num 10) (.str "9") = some .lt := by decide
  have less : BinaryOperator.less.apply (.num 10) (.str "9") = { value := .bool true } := by
    rw [BinaryOperator.apply, order]
    rfl
  obtain ⟨-, mirrored, -, first, second, _, _, answered, answer, -, -, single, -⟩ :=
    comparison_coherent (.num 10) (.str "9")
  obtain ⟨-, -, -, _, _, _, _, -, -, atMost, -, -, never⟩ :=
    comparison_coherent (.num 10) (.num Number.nan)
  obtain rfl : first = true := by
    cases answered.symm.trans less
    rfl
  obtain rfl : second = false := by
    have counted := single texts
    cases second
    · rfl
    · simp [List.count_cons] at counted
  refine ⟨texts, less, mirrored ▸ less, answer, nan, ?_⟩
  rw [atMost, (never nan).2.2.1]

end Value

end StackVM
