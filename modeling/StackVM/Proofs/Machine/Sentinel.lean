import Mathlib.Data.List.TakeWhile
import StackVM.Machine.Step
import StackVM.Proofs.Machine.Segment
import StackVM.Proofs.Machine.Stack

/-! # Clearing the stack down to a null

A null on the stack marks where the temporary values of a statement begin. Clearing takes off the
nearest mark below the values to keep, together with what lies between. Seen from the bottom, a
stack is a base, the mark, what is dropped and what is kept; it can always be divided like this, and
the base and the kept values are what remains.
-/

namespace StackVM

private theorem Value.isNull_eq_false_iff {v : Value} : v.isNull = false ↔ v ≠ .null := by
  cases v <;> simp [Value.isNull]

namespace Stack

variable {stack free below : Stack} {base mark dropped top : List Value} {k : Int}

/-- A stack with no null above its lower part loses what it does not keep of the upper part, and
the null on which the lower part starts. -/
theorem popUntilNull_append (count : Nat) (solid : ∀ v ∈ free, v ≠ .null)
    (marked : below = [] ∨ ∃ rest, below = .null :: rest) :
    popUntilNull (free ++ below) count = free.take count ++ below.tail := by
  have solid' : ∀ v ∈ free, (!v.isNull) = true := fun v member => by
    rw [Value.isNull_eq_false_iff.mpr (solid v member), Bool.not_false]
  have stops : below.takeWhile (fun v => !v.isNull) = [] ∧
      below.dropWhile (fun v => !v.isNull) = below := by
    rcases marked with rfl | ⟨rest, rfl⟩
    · exact ⟨rfl, rfl⟩
    · exact ⟨rfl, rfl⟩
  have keeps : kept (free ++ below) count = free.take count := by
    rw [kept, ← List.take_takeWhile, List.takeWhile_append_of_pos solid', stops.1, List.append_nil]
  have remains : (free ++ below).drop (free.take count).length = free.drop count ++ below := by
    rw [← List.take_append_drop count free, List.append_assoc]
    simp only [List.take_append_drop, List.drop_left]
  have dropsRest : belowNull (free.drop count ++ below) = below.tail := by
    rw [belowNull, List.dropWhile_append_of_pos
      fun v member => solid' v (List.mem_of_mem_drop member), stops.2]
  simp only [popUntilNull, keeps, remains, dropsRest]

/-- How a stack divides when `k` values are to be kept: from the bottom up a base, a null as the
mark, the values to drop and those to keep. Without a null there is no base either. -/
structure Divides (stack : Stack) (k : Int) (base mark dropped top : List Value) : Prop where
  parts : stack.fromBottom = base ++ mark ++ dropped ++ top
  marks : mark = [.null] ∨ mark = [] ∧ base = []
  solid : Value.null ∉ dropped ∧ Value.null ∉ top
  count : (top.length : Int) = min (max k 0) (dropped.length + top.length)

/-- Every stack can be divided, whatever number of values is to be kept. -/
theorem exists_divides (stack : Stack) (k : Int) :
    ∃ base mark dropped top, Divides stack k base mark dropped top := by
  have solid : ∀ v ∈ stack.takeWhile fun v => !v.isNull, v ≠ .null := fun v member =>
    Value.isNull_eq_false_iff.mp (by simpa using List.mem_takeWhile_imp member)
  have whole := List.takeWhile_append_dropWhile (p := fun v : Value => !v.isNull) (l := stack)
  have first := List.head?_dropWhile_not (fun v : Value => !v.isNull) stack
  generalize stack.takeWhile (fun v => !v.isNull) = free at solid whole
  generalize stack.dropWhile (fun v => !v.isNull) = below at whole first
  have split := List.take_append_drop k.toNat free
  have kept : Value.null ∉ (free.drop k.toNat).reverse ∧ Value.null ∉ (free.take k.toNat).reverse := by
    simp only [List.mem_reverse]
    exact ⟨fun member => solid _ (List.mem_of_mem_drop member) rfl,
      fun member => solid _ (List.mem_of_mem_take member) rfl⟩
  have count : ((free.take k.toNat).reverse.length : Int) = min (max k 0)
      ((free.drop k.toNat).reverse.length + (free.take k.toNat).reverse.length) := by
    simp only [List.length_reverse, List.length_take, List.length_drop]
    omega
  cases below with
  | nil =>
    refine ⟨[], [], _, _, ?_, .inr ⟨rfl, rfl⟩, kept, count⟩
    rw [fromBottom, ← whole, ← split]
    simp
  | cons v below =>
    obtain rfl : v = .null := by
      cases v <;> simp [Value.isNull] at first
      rfl
    refine ⟨below.reverse, [.null], _, _, ?_, .inl rfl, kept, count⟩
    rw [fromBottom, ← whole, ← split]
    simp

private theorem Divides.popUntilNull_eq (divides : Divides stack k base mark dropped top) :
    stack.popUntilNull k.toNat = .ofBottom (base ++ top) := by
  obtain ⟨parts, marks, ⟨solidDropped, solidTop⟩, count⟩ := divides
  have shape : stack = (dropped ++ top).reverse ++ (mark ++ base.reverse) := by
    rw [← List.reverse_reverse stack]
    change stack.fromBottom.reverse = _
    rw [parts]
    rcases marks with rfl | ⟨rfl, rfl⟩ <;> simp
  have solid : ∀ v ∈ (dropped ++ top).reverse, v ≠ .null := by
    rintro v member rfl
    rcases List.mem_append.mp (List.mem_reverse.mp member) with low | high
    · exact solidDropped low
    · exact solidTop high
  have marked : mark ++ base.reverse = [] ∨ ∃ rest, mark ++ base.reverse = .null :: rest := by
    rcases marks with rfl | ⟨rfl, rfl⟩
    · exact .inr ⟨base.reverse, rfl⟩
    · exact .inl rfl
  have taken : (dropped ++ top).reverse.take k.toNat = top.reverse := by
    -- Either all the values to keep are there, or nothing is left to drop.
    rcases Nat.lt_or_ge (dropped.length + top.length) k.toNat with few | enough
    · obtain rfl : dropped = [] := List.eq_nil_of_length_eq_zero (by omega)
      rw [List.nil_append, List.take_of_length_le (by simp at few ⊢; omega)]
    · rw [List.reverse_append]
      exact List.take_left' (by rw [List.length_reverse]; omega)
  have under : (mark ++ base.reverse).tail = base.reverse := by
    rcases marks with rfl | ⟨rfl, rfl⟩ <;> rfl
  rw [shape, popUntilNull_append k.toNat solid marked, taken, under, ofBottom, List.reverse_append]

end Stack

namespace Machine

/-- Clearing the stack down to a null is exact: the stack divides into a base, the nearest null
below the values to keep, the values above it to drop and those to keep, and however it is divided
so, the base and the kept values remain in their order and nothing else of the machine changes. -/
theorem popUntilNull_exact (s : Settings) (i : Instruction) (m : Machine) :
    (∃ base mark dropped top, m.stack.Divides i.operand0 base mark dropped top) ∧
    ∀ base mark dropped top, m.stack.Divides i.operand0 base mark dropped top →
      m.execute s .popUntilNull i = .ok { m with stack := .ofBottom (base ++ top) } := by
  refine ⟨m.stack.exists_divides i.operand0, ?_⟩
  intro base mark dropped top divides
  rw [execute, divides.popUntilNull_eq]

/-- Two marks, of which the upper one lies below a dropped and two kept values. -/
theorem popUntilNull_exact_twoMarks :
    ({ idle with stack := .ofBottom [.str "a", .null, .str "b", .null, .str "c", .bool true, .str "e"] } :
        Machine).execute { program := {} } .popUntilNull ⟨13, 2, 0, 1⟩ =
      .ok { idle with stack := .ofBottom [.str "a", .null, .str "b", .bool true, .str "e"] } := by
  refine (popUntilNull_exact _ _ _).2 [.str "a", .null, .str "b"] [.null] [.str "c"]
    [.bool true, .str "e"] ⟨rfl, .inl rfl, ?_, by decide⟩
  simp

end Machine

end StackVM
