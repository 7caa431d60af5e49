import StackVM.Machine.Stack

/-! # The stack seen from its bottom

Values are pushed on top and taken off from there. Read from the bottom up, a stack grows and is cut
at the end of a list.
-/

namespace StackVM.Stack

@[simp] theorem length_fromBottom (stack : Stack) : stack.fromBottom.length = stack.length :=
  List.length_reverse

@[simp] theorem ofBottom_concat (values : List Value) (top : Value) :
    ofBottom (values ++ [top]) = top :: ofBottom values := by
  simp [ofBottom]

/-- Cutting a stack keeps its lowest values. -/
theorem truncate_eq_take (stack : Stack) (size : Nat) :
    stack.truncate size = ofBottom (stack.fromBottom.take size) := by
  rw [truncate, ofBottom, fromBottom, List.take_reverse, List.reverse_reverse]

theorem truncate_eq_take_min (stack : Stack) (size : Nat) :
    stack.truncate size = ofBottom (stack.fromBottom.take (min size stack.length)) := by
  rw [truncate_eq_take, List.take_eq_take_iff.mpr]
  simp

/-- The topmost `n` values, the top first; null stands for a missing one. -/
def popped (s : Stack) (n : Nat) : List Value := s.take n ++ List.replicate (n - s.length) .null

private theorem popped_succ (stack : Stack) (n : Nat) :
    stack.popped (n + 1) = stack.peek :: stack.below.popped n := by
  cases stack with
  | nil => simp [popped, peek, below, List.replicate_succ]
  | cons top rest => simp [popped, peek, below]

section Gathering

variable (give : Value → List Value) (n : Nat) (stack : Stack) (items : Array Value)

/-- Gathering goes through the topmost values from the top down. -/
theorem toList_gather :
    (stack.gather give n items).1.toList = items.toList ++ (stack.popped n).flatMap give := by
  induction n generalizing stack items with
  | zero => simp [gather, popped]
  | succ n ih => rw [gather, ih, popped_succ, List.flatMap_cons, Array.toList_appendList, List.append_assoc]

/-- Gathering leaves what lies below the topmost values. -/
theorem gather_snd : (stack.gather give n items).2 = stack.drop n := by
  induction n generalizing stack items with
  | zero => rfl
  | succ n ih => rw [gather, ih, below, List.drop_tail]

end Gathering

end StackVM.Stack
