import StackVM.Builtin.ListFunction
import StackVM.Machine.Stack
import StackVM.Machine.Variables
import StackVM.Pattern.Basic
import StackVM.Value.Order

/-! # Operators

Operators take their operands from the stack one by one, the right-hand side first. All but the
jumps and `explode` leave exactly one value.
-/

namespace StackVM

inductive UnaryOperator where
  | length
  | boolNot
  | varExists
  | bitwiseNot
deriving DecidableEq, Repr

inductive BinaryOperator where
  | add
  | sub
  | mul
  | div
  | rem
  | arrayIndex
  | arraySlice
  | concat
  | boolAnd
  | boolOr
  | boolXor
  | inArray
  | strLike
  | equal
  | notEqual
  | greater
  | greaterEqual
  | less
  | lessEqual
  | bitwiseAnd
  | bitwiseOr
  | bitwiseXor
deriving DecidableEq, Repr

inductive Operator where
  /-- Jumps to a target. -/
  | jump
  /-- Jumps if the top is null. -/
  | jumpIfNil
  /-- Jumps if the top is false. -/
  | jumpIfFalse
  /-- Puts the items of a list on the stack. -/
  | explode
  /-- Collects values from the top down. -/
  | implode
  /-- Collects values in the order in which they were pushed, arrays replaced by their items. -/
  | superImplode
  | unary (op : UnaryOperator)
  | binary (op : BinaryOperator)
deriving DecidableEq, Repr

namespace Operators

/-- A signed 64-bit integer nearest to an integer. -/
def saturate (n : Int) : Int := max Number.minInt64 (min n Number.maxInt64)

/-- The instruction at which a jump with this operand goes on. -/
def resumeAt (operand : Int) : Nat := (saturate (operand + 1)).toNat

/-- The number of characters or items. -/
def length : Value → Nat
  | .str s => s.length
  | .arr items => items.length
  | _ => 0

/-- An operation on the bits of two signed 64-bit integers. -/
def onBits (op : BitVec 64 → BitVec 64 → BitVec 64) (a b : Value) : Value :=
  .ofInt (op (BitVec.ofInt 64 a.toInt) (BitVec.ofInt 64 b.toInt)).toInt

/-- The value is an item, a name or a part of the text. -/
def contains (data needle : Value) : Bool :=
  match data with
  | .arr items => items.contains needle
  | .obj fields => Record.has fields needle.text
  | .str s => Text.contains s.toList needle.text.toList
  | _ => false

/-- The index that a value denotes in a list, with the warning if there is none. -/
def indexIn (index : Value) (length : Nat) (warnOutside : Bool) : Option Nat × List String :=
  match index with
  | .num x =>
    match Sequence.occupied? (Number.toInt x.toFloat) length with
    | some i => (some i, [])
    | none =>
      if Number.toInt x.toFloat = 0 then (none, ["Array indexes start at 1, not 0. Returning null."])
      else (none, if warnOutside then ["Array index out of bounds. Returning null."] else [])
  | _ => (none, ["Array index must be a number"])

/-- The item of an array, field of a record or character of a text. -/
def element (data index : Value) : Reply :=
  match data with
  | .arr items =>
    let (i, warnings) := indexIn index items.length true
    ⟨(i.bind (items[·]?)).getD .null, warnings⟩
  | .obj fields => (Record.get? fields index.text).getD .null
  | .str s =>
    let cs := s.toList
    let (i, warnings) := indexIn index cs.length false
    ⟨.str (String.ofList (i.bind (cs[·]?)).toList), warnings⟩
  | _ => Value.null

/-- The element at an index or the elements at several indexes. -/
def arrayIndex (data index : Value) : Reply :=
  match index with
  | .arr indexes =>
    let replies := indexes.map (element data)
    let warnings := replies.flatMap (·.warnings)
    match data with
    | .str _ => ⟨.str (String.join (replies.map (·.value.text))), warnings⟩
    | _ => ⟨.arr (replies.map (·.value)), warnings⟩
  | index => element data index

/-- The longest range. -/
def maxSlice : Nat := 32768

/-- The number of integers from `start` to `stop`, as far as a word can tell; it is not positive if
there are none. -/
def sliceLength (start stop : Int) : Int := saturate (saturate (stop - start) + 1)

/-- The last integer of a range from `start` to `stop` that is cut if it is too long. -/
def sliceEnd (start stop : Int) : Int :=
  if maxSlice < sliceLength start stop then saturate (start + (maxSlice - 1)) else stop

/-- The warning that a range of some length is cut. -/
def sliceWarning (length : Int) : String :=
  "Attempted to create an array with " ++ Number.integerText length ++
    " elements (max is " ++ Number.integerText maxSlice ++ "). Array truncated."

/-- The integers of a range, both ends included. -/
def arraySlice (start stop : Int) : Reply where
  value :=
    if sliceLength start stop ≤ 0 then .arr []
    else .arr ((start...=sliceEnd start stop).toList.map .ofInt)
  warnings :=
    if maxSlice < sliceLength start stop then [sliceWarning (sliceLength start stop)] else []

/-- An array gives its items, anything else itself. -/
def spread : Value → List Value
  | .arr items => items
  | v => [v]

end Operators

open Operators in
def UnaryOperator.apply (op : UnaryOperator) (vars : Variables) (a : Value) : Value :=
  match op with
  | .length => .ofNat (Operators.length a)
  | .boolNot => .bool (!a.truthy)
  | .varExists => .bool (vars.has a.text)
  | .bitwiseNot => .ofInt (-a.toInt - 1)

open Operators in
def BinaryOperator.apply (op : BinaryOperator) (a b : Value) : Reply :=
  match op with
  | .add => Value.num (a.toDouble + b.toDouble)
  | .sub => Value.num (a.toDouble - b.toDouble)
  | .mul => Value.num (a.toDouble * b.toDouble)
  | .div => Value.num (a.toDouble / b.toDouble)
  | .rem => Value.ofInt (if b.toInt = 0 then 0 else a.toInt.tmod b.toInt)
  | .arrayIndex => Operators.arrayIndex a b
  | .arraySlice => Operators.arraySlice a.toInt b.toInt
  | .concat => Value.str (a.text ++ b.text)
  | .boolAnd => Value.bool (a.truthy && b.truthy)
  | .boolOr => Value.bool (a.truthy || b.truthy)
  | .boolXor => Value.bool (a.truthy != b.truthy)
  | .inArray => Value.bool (contains b a)
  | .strLike => Value.bool !(Pattern.matchText a.text b.text).isEmpty
  | .equal => Value.bool (a == b)
  | .notEqual => Value.bool (a != b)
  | .greater => Value.bool (Value.compare? a b == some .gt)
  | .greaterEqual => Value.bool ((Value.compare? a b).any (· != .lt))
  | .less => Value.bool (Value.compare? a b == some .lt)
  | .lessEqual => Value.bool ((Value.compare? a b).any (· != .gt))
  | .bitwiseAnd => onBits (· &&& ·) a b
  | .bitwiseOr => onBits (· ||| ·) a b
  | .bitwiseXor => onBits (· ^^^ ·) a b

/-- What an operator does: the stack afterwards, a jump and warnings. -/
structure Effect where
  stack : Stack
  jump : Option Nat := none
  warnings : List String := []

open Operators in
/-- The effect of an operator with the operand of its instruction. -/
def Operator.apply (op : Operator) (arg : Int) (vars : Variables) (stack : Stack) : Effect :=
  match op with
  | .jump =>
    if arg ≠ 0 then { stack, jump := some (resumeAt arg) }
    else { stack := stack.below, jump := some (resumeAt stack.peek.toInt) }
  | .jumpIfNil => { stack, jump := if stack.peek.isNull then some (resumeAt arg) else none }
  | .jumpIfFalse => { stack, jump := if stack.peek.truthy then none else some (resumeAt arg) }
  | .explode => { stack := stack.peek.toList.reverse ++ stack.below }
  | .implode =>
    let taken := stack.gather (fun v => [v]) arg.toNat #[]
    { stack := .arr taken.1.toList :: taken.2 }
  | .superImplode =>
    -- the values are taken backwards, and so are the items of an array
    let taken := stack.gather (fun v => (spread v).reverse) arg.toNat #[]
    { stack := .arr taken.1.toList.reverse :: taken.2 }
  | .unary op => { stack := op.apply vars stack.peek :: stack.below }
  | .binary op =>
    let reply := op.apply stack.below.peek stack.peek
    { stack := reply.value :: stack.below.below, warnings := reply.warnings }

end StackVM
