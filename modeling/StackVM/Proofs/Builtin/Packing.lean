import StackVM.Proofs.Builtin.Locality

/-! # Packing values into an array

Both ways of packing take the values off the stack from the top down. `implode` keeps that order.
`superImplode` also takes the items of an array from the last to the first and turns everything round
in the end, so that all items come out in the order in which they were pushed. Null stands for what
the stack does not hold.
-/

namespace StackVM

namespace Stack

variable (base values : List Value)

private theorem popped_ofBottom :
    popped (ofBottom (base ++ values)) values.length = values.reverse := by
  rw [ofBottom_append, ← List.length_reverse, ofBottom, popped_append]

private theorem drop_ofBottom : (ofBottom (base ++ values)).drop values.length = ofBottom base := by
  rw [ofBottom_append, ofBottom, ← List.length_reverse, List.drop_left]

/-- Nulls below the values are popped as if they were missing. -/
theorem popped_nulls_below {stack : Stack} {n : Nat} (short : stack.length ≤ n) :
    popped (stack ++ List.replicate (n - stack.length) .null) n = popped stack n := by
  have whole : (stack ++ List.replicate (n - stack.length) Value.null).length = n := by
    rw [List.length_append, List.length_replicate]
    omega
  rw [popped, popped, whole, Nat.sub_self, List.replicate_zero, List.append_nil,
    List.take_of_length_le (Nat.le_of_eq whole), List.take_of_length_le short]

private theorem drop_nulls_below {stack : Stack} {n : Nat} (short : stack.length ≤ n) :
    (stack ++ List.replicate (n - stack.length) Value.null).drop n = stack.drop n := by
  rw [List.drop_of_length_le short, List.drop_of_length_le]
  rw [List.length_append, List.length_replicate]
  omega

end Stack

namespace Operator

open Operators (spread)

variable (vars : Variables) (stack : Stack) (n : Nat)

private theorem implode_eq :
    Operator.implode.apply n vars stack = { stack := .arr (stack.popped n) :: stack.drop n } := by
  simp only [apply, Int.toNat_natCast, Stack.toList_gather, Stack.gather_snd, List.flatMap_singleton']
  rfl

/-- The items of an array are turned round twice. -/
theorem superImplode_eq :
    Operator.superImplode.apply n vars stack =
      { stack := .arr ((stack.popped n).reverse.flatMap spread) :: stack.drop n } := by
  have turned : ((stack.popped n).flatMap fun v => (spread v).reverse).reverse =
      (stack.popped n).reverse.flatMap spread := by
    simp only [List.reverse_flatMap, Function.comp_def, List.reverse_reverse]
  simp only [apply, Int.toNat_natCast, Stack.toList_gather, Stack.gather_snd, List.nil_append, turned]

/-- Values none of which is an array are their own items. -/
theorem flatMap_spread {values : List Value} (flat : ∀ v ∈ values, ∀ items, v ≠ .arr items) :
    values.flatMap spread = values := by
  have own : ∀ v ∈ values, spread v = [v] := by
    intro v member
    cases v with
    | arr items => exact absurd rfl (flat _ member items)
    | null | bool | num | str | obj => rfl
  rw [List.flatMap_congr own, List.flatMap_singleton']

section Pushed

variable (base values : List Value)

private theorem superImplode_pushed :
    Operator.superImplode.apply values.length vars (.ofBottom (base ++ values)) =
      { stack := .ofBottom (base ++ [.arr (values.flatMap spread)]) } := by
  rw [superImplode_eq, Stack.popped_ofBottom, Stack.drop_ofBottom, List.reverse_reverse,
    Stack.ofBottom_concat]

private theorem implode_pushed :
    Operator.implode.apply values.length vars (.ofBottom (base ++ values)) =
      { stack := .ofBottom (base ++ [.arr values.reverse]) } := by
  rw [implode_eq, Stack.popped_ofBottom, Stack.drop_ofBottom, Stack.ofBottom_concat]

private theorem explode_pushed (arg : Int) :
    Operator.explode.apply arg vars (.ofBottom (base ++ [.arr values])) =
      { stack := .ofBottom (base ++ values) } := by
  rw [Stack.ofBottom_concat, Stack.ofBottom_append]
  rfl

end Pushed

private theorem packing_nulls_below {op : Operator} (packs : op = .implode ∨ op = .superImplode)
    {values : List Value} {n : Nat} (short : values.length ≤ n) :
    op.apply n vars (.ofBottom (List.replicate (n - values.length) .null ++ values)) =
      op.apply n vars (.ofBottom values) := by
  have held : (Stack.ofBottom values).length = values.length := List.length_reverse
  have below : Stack.ofBottom (List.replicate (n - values.length) .null ++ values) =
      Stack.ofBottom values ++ List.replicate (n - (Stack.ofBottom values).length) .null := by
    rw [Stack.ofBottom_append, held]
    exact congrArg _ List.reverse_replicate
  rw [← held] at short
  rw [below]
  rcases packs with rfl | rfl
  · rw [implode_eq, implode_eq, Stack.popped_nulls_below short, Stack.drop_nulls_below short]
  · rw [superImplode_eq, superImplode_eq, Stack.popped_nulls_below short,
      Stack.drop_nulls_below short]

/-- Packing keeps everything in order. Of the values pushed on a stack, `superImplode` makes the array
of their items in the order of pushing, and `implode` the array of the values from the last to the
first; both treat values that a stack does not hold as nulls at its bottom. So exploding what was
imploded puts the values back the other way round, and packing again what was exploded restores an
array that holds no array. -/
theorem packing_keeps_order (vars : Variables) (base values : List Value) :
    Operator.superImplode.apply values.length vars (.ofBottom (base ++ values)) =
      { stack := .ofBottom (base ++ [.arr (values.flatMap spread)]) } ∧
    Operator.implode.apply values.length vars (.ofBottom (base ++ values)) =
      { stack := .ofBottom (base ++ [.arr values.reverse]) } ∧
    (∀ op, op = Operator.implode ∨ op = Operator.superImplode → ∀ n : Nat, values.length ≤ n →
      op.apply n vars (.ofBottom values) =
        op.apply n vars (.ofBottom (List.replicate (n - values.length) .null ++ values))) ∧
    (∀ arg,
      let imploded := Operator.implode.apply values.length vars (.ofBottom (base ++ values))
      Operator.explode.apply arg vars imploded.stack = { stack := .ofBottom (base ++ values.reverse) }) ∧
    ((∀ v ∈ values, ∀ items, v ≠ .arr items) → ∀ arg,
      let exploded := Operator.explode.apply arg vars (.ofBottom (base ++ [.arr values]))
      Operator.superImplode.apply values.length vars exploded.stack =
        { stack := .ofBottom (base ++ [.arr values]) }) := by
  refine ⟨superImplode_pushed vars base values, implode_pushed vars base values, ?_, ?_, ?_⟩
  · intro op packs n short
    exact (packing_nulls_below vars packs short).symm
  · intro arg imploded
    rw [show imploded.stack = .ofBottom (base ++ [.arr values.reverse]) from
      congrArg Effect.stack (implode_pushed vars base values), explode_pushed]
  · intro flat arg exploded
    rw [show exploded.stack = .ofBottom (base ++ values) from
      congrArg Effect.stack (explode_pushed vars base values arg), superImplode_pushed,
      flatMap_spread flat]

/-- Nested arrays of different lengths above another value. -/
theorem packing_keeps_order_nested :
    Operator.superImplode.apply 3 {} (.ofBottom [.str "base", .arr [.null, .bool true], .str "x",
        .arr [.arr [.null], .bool false, .null]]) =
      { stack := .ofBottom [.str "base",
        .arr [.null, .bool true, .str "x", .arr [.null], .bool false, .null]] } ∧
    Operator.superImplode.apply 3 {} (.ofBottom [.arr [.bool true, .bool false]]) =
      { stack := .ofBottom [.arr [.null, .null, .bool true, .bool false]] } ∧
    (∀ v ∈ [Value.str "x", .null], ∀ items, v ≠ .arr items) ∧
    Operator.superImplode.apply 2 {}
        (Operator.explode.apply 0 {} (.ofBottom [.str "base", .arr [.str "x", .null]])).stack =
      { stack := .ofBottom [.str "base", .arr [.str "x", .null]] } := by
  have flat : ∀ v ∈ [Value.str "x", .null], ∀ items, v ≠ .arr items := by simp
  obtain ⟨packed, -, -, -, -⟩ := packing_keeps_order {} [.str "base"]
    [.arr [.null, .bool true], .str "x", .arr [.arr [.null], .bool false, .null]]
  obtain ⟨-, -, missing, -, -⟩ := packing_keeps_order {} [] [.arr [.bool true, .bool false]]
  obtain ⟨filled, -, -, -, -⟩ := packing_keeps_order {} [] [.null, .null, .arr [.bool true, .bool false]]
  obtain ⟨-, -, -, -, restored⟩ := packing_keeps_order {} [.str "base"] [.str "x", .null]
  exact ⟨packed, (missing _ (.inr rfl) 3 (by decide)).trans filled, flat, restored flat 0⟩

end Operator

end StackVM
