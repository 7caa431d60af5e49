import Mathlib.Data.List.Basic
import StackVM.Builtin.Call
import StackVM.Proofs.Machine.Failure
import StackVM.Proofs.Machine.Stack

/-! # Builtins work on their operands only

Each builtin has a number of operands, which the operand of its instruction may decide. Called with
just these on the stack, it leaves some results. Called with further values below them, it leaves
those values as they are, the same results above them, and does the same otherwise: a stack can
always be cut below the operands.
-/

namespace StackVM

/-- The number of operands of an operator. -/
def Operator.arity (op : Operator) (arg : Int) : Nat :=
  match op with
  | .jump => if arg = 0 then 1 else 0
  | .implode | .superImplode => (max arg 0).toNat
  | .binary _ => 2
  | .jumpIfNil | .jumpIfFalse | .explode | .unary _ => 1

/-- The number of operands of a builtin; a list of parameters is one operand. -/
def Builtin.arity (b : Builtin) (arg : Int) : Nat :=
  match b with
  | .operator op => op.arity arg
  | _ => 1

namespace Stack

theorem ofBottom_append (base values : List Value) :
    ofBottom (base ++ values) = ofBottom values ++ ofBottom base :=
  List.reverse_append

@[simp] theorem ofBottom_fromBottom (stack : Stack) : ofBottom stack.fromBottom = stack :=
  List.reverse_reverse stack

/-- As many values as there are operands are popped from above whatever lies below. -/
theorem popped_append (operands base : Stack) : popped (operands ++ base) operands.length = operands := by
  simp [popped]

private theorem popped_length (operands : Stack) : popped operands operands.length = operands := by
  simp [popped]

end Stack

/-- The same effect above further values. -/
def Effect.above (e : Effect) (base : Stack) : Effect := { e with stack := e.stack ++ base }

/-- The same outcome above further values. -/
def CallResult.above (r : CallResult) (base : Stack) : CallResult := { r with stack := r.stack ++ base }

private theorem Operator.apply_append {op : Operator} {arg : Int} (vars : Variables)
    {operands : Stack}
    (counted : operands.length = op.arity arg) (base : Stack) :
    op.apply arg vars (operands ++ base) = (op.apply arg vars operands).above base := by
  cases op with
  | jump =>
    simp only [arity] at counted
    split_ifs at counted with dynamic
    · obtain ⟨v, rfl⟩ := List.length_eq_one_iff.mp counted
      simp only [apply, dynamic, ne_eq, not_true_eq_false, ↓reduceIte]
      rfl
    · obtain rfl := List.length_eq_zero_iff.mp counted
      simp only [apply, ne_eq, dynamic, not_false_eq_true, ↓reduceIte]
      rfl
  | implode | superImplode =>
    have count : arg.toNat = operands.length := by
      simp only [arity] at counted
      omega
    simp only [apply, count, Stack.toList_gather, Stack.gather_snd, Stack.popped_append,
      Stack.popped_length, List.drop_left, List.drop_length]
    rfl
  | binary op =>
    obtain ⟨b, a, rfl⟩ := List.length_eq_two.mp counted
    rfl
  | explode =>
    obtain ⟨v, rfl⟩ := List.length_eq_one_iff.mp counted
    simp [apply, Effect.above, Stack.peek, Stack.below]
  | jumpIfNil | jumpIfFalse | unary op =>
    obtain ⟨v, rfl⟩ := List.length_eq_one_iff.mp counted
    rfl

namespace Builtin

variable {b : Builtin} {arg line : Int} {vars : Variables} {clock : Clock} {operands : Stack}
  {random : Random} {host : Host}

/-- A builtin does the same above further values. -/
theorem call_append (counted : operands.length = b.arity arg) (base : Stack) :
    b.call arg line vars clock (operands ++ base) random host =
      (b.call arg line vars clock operands random host).above base := by
  cases b with
  | operator op =>
    simp only [call, Operator.apply_append vars counted base]
    rfl
  | jsonDecode =>
    obtain ⟨v, rfl⟩ := List.length_eq_one_iff.mp counted
    have top : Stack.peek ([v] ++ base) = Stack.peek [v] := rfl
    simp only [call, top]
    split <;> rfl
  | _ =>
    obtain ⟨v, rfl⟩ := List.length_eq_one_iff.mp counted
    rfl

/-- The builtins that do not leave exactly one result. -/
def withoutResult : List Builtin :=
  [.operator .jump, .operator .jumpIfNil, .operator .jumpIfFalse, .operator .explode]

private theorem call_jump_stack (counted : operands.length = arity (.operator .jump) arg) :
    (call (.operator .jump) arg line vars clock operands random host).stack = [] := by
  simp only [arity, Operator.arity] at counted
  split_ifs at counted with dynamic
  · obtain ⟨v, rfl⟩ := List.length_eq_one_iff.mp counted
    simp only [call, Operator.apply, dynamic, ne_eq, not_true_eq_false, ↓reduceIte]
    rfl
  · obtain rfl := List.length_eq_zero_iff.mp counted
    simp only [call, Operator.apply, ne_eq, dynamic, not_false_eq_true, ↓reduceIte]

private theorem call_failed_stack (counted : operands.length = b.arity arg)
    (failed : (b.call arg line vars clock operands random host).fault ≠ none) :
    (b.call arg line vars clock operands random host).stack = [] := by
  obtain ⟨f, raised⟩ := Option.ne_none_iff_exists'.mp failed
  obtain ⟨rfl, _, result⟩ := call_failed raised
  obtain ⟨v, rfl⟩ := List.length_eq_one_iff.mp counted
  rw [result]
  rfl

private theorem call_explode_stack (counted : operands.length = arity (.operator .explode) arg) :
    (call (.operator .explode) arg line vars clock operands random host).stack.fromBottom =
      operands.fromBottom.flatMap Value.toList := by
  obtain ⟨v, rfl⟩ := List.length_eq_one_iff.mp counted
  simp [call, Operator.apply, Stack.peek, Stack.below, Stack.fromBottom]

/-- All other builtins leave one result if they succeed. -/
theorem length_call_stack (counted : operands.length = b.arity arg) (ordinary : b ∉ withoutResult)
    (succeeded : (b.call arg line vars clock operands random host).fault = none) :
    (b.call arg line vars clock operands random host).stack.length = 1 := by
  cases b with
  | operator op =>
    cases op with
    | jump | jumpIfNil | jumpIfFalse | explode => simp [withoutResult] at ordinary
    | implode | superImplode =>
      have count : arg.toNat = operands.length := by
        simp only [arity, Operator.arity] at counted
        omega
      simp [call, Operator.apply, count, Stack.gather_snd]
    | unary op =>
      obtain ⟨v, rfl⟩ := List.length_eq_one_iff.mp counted
      rfl
    | binary op =>
      obtain ⟨right, left, rfl⟩ := List.length_eq_two.mp counted
      rfl
  | jsonDecode =>
    obtain ⟨v, rfl⟩ := List.length_eq_one_iff.mp counted
    simp only [call] at succeeded ⊢
    split at succeeded
    · rfl
    · cases succeeded
  | _ =>
    obtain ⟨v, rfl⟩ := List.length_eq_one_iff.mp counted
    rfl

/-- A call works on the operands of its builtin only. Whatever lies below them stays, and the results
above it, the jump, the fault, the warnings, the generator and the host are those of a call with the
operands alone. A jump and a failing call leave no results, the conditional jumps leave their
operand, `explode` leaves the items of its operand, and every other builtin leaves one result. -/
theorem call_works_on_operands (b : Builtin) (arg line : Int) (vars : Variables) (clock : Clock)
    (random : Random) (host : Host) (base operands : List Value)
    (counted : operands.length = b.arity arg) :
    let alone := b.call arg line vars clock (.ofBottom operands) random host
    let results := alone.stack.fromBottom
    b.call arg line vars clock (.ofBottom (base ++ operands)) random host =
      { alone with stack := .ofBottom (base ++ results) } ∧
    (b = .operator .jump ∨ alone.fault ≠ none → results = []) ∧
    (b = .operator .jumpIfNil ∨ b = .operator .jumpIfFalse → results = operands) ∧
    (b = .operator .explode → results = operands.flatMap Value.toList) ∧
    (b ∉ withoutResult ∧ alone.fault = none → results.length = 1) := by
  intro alone results
  have count : (Stack.ofBottom operands).length = b.arity arg := by
    rw [Stack.ofBottom, List.length_reverse, counted]
  refine ⟨?_, ?_, ?_, ?_, ?_⟩
  · rw [Stack.ofBottom_append, call_append count, Stack.ofBottom_append, Stack.ofBottom_fromBottom]
    rfl
  · rintro (rfl | failed)
    · simp only [results, alone, call_jump_stack count, Stack.fromBottom, List.reverse_nil]
    · simp only [results, alone, call_failed_stack count failed, Stack.fromBottom, List.reverse_nil]
  · rintro (rfl | rfl)
    · exact List.reverse_reverse operands
    · exact List.reverse_reverse operands
  · rintro rfl
    exact (call_explode_stack count).trans (congrArg _ (List.reverse_reverse operands))
  · rintro ⟨ordinary, succeeded⟩
    simpa only [results, Stack.length_fromBottom] using length_call_stack count ordinary succeeded

theorem call_works_on_operands_superImplode :
    call (.operator .superImplode) 2 1 {} ⟨0, 0⟩
        (.ofBottom ([.str "below"] ++ [.arr [.bool true, .null], .bool false])) ⟨7⟩ Machine.idle.world.host =
      { stack := .ofBottom [.str "below", .arr [.bool true, .null, .bool false]]
        random := ⟨7⟩, host := Machine.idle.world.host } :=
  (call_works_on_operands (.operator .superImplode) 2 1 {} ⟨0, 0⟩ ⟨7⟩ Machine.idle.world.host [.str "below"]
    [.arr [.bool true, .null], .bool false] rfl).1

end Builtin

end StackVM
