import StackVM.Value.Basic

/-! # Comparing values

`compare?` serves the relational operators: whatever is neither a number nor a text is compared by
its text, and a number is compared with a text by its text. `sortCompare` is a total preorder on all
values: numbers and truth values first, then texts, then everything else as equals.
-/

namespace StackVM.Value

/-- Booleans, numbers and texts have a place in an order. -/
def isOrdered : Value → Bool
  | .bool _ | .num _ | .str _ => true
  | _ => false

/-- The strict order of booleans, numbers and texts; a text beside a number compares texts. -/
def lt (a b : Value) : Bool :=
  if !a.isOrdered || !b.isOrdered then false
  else match a, b with
    | .str _, _ | _, .str _ => a.text < b.text
    | _, _ => a.toNumber < b.toNumber

/-- Numbers and texts stay, everything else becomes its text. -/
def scalarize : Value → Value
  | .num x => .num x
  | .str s => .str s
  | other => .str other.text

/-- Brings two values to one kind: both numbers or both texts. -/
def comparable (a b : Value) : Value × Value :=
  match a.scalarize, b.scalarize with
  | .num x, .str s => (.str (Number.text x.toFloat), .str s)
  | .str s, .num x => (.str s, .str (Number.text x.toFloat))
  | a, b => (a, b)

/-- Texts are ordered character by character. -/
def compareText (a b : String) : Ordering := if a < b then .lt else if b < a then .gt else .eq

/-- The order of two values for the relational operators; NaN is comparable with no number. -/
def compare? (a b : Value) : Option Ordering :=
  match comparable a b with
  | (.str s, .str t) => some (compareText s t)
  | (a, b) => Number.compare? a.toNumber b.toNumber

/-- The group of a value in a sorted list. -/
def sortClass : Value → Nat
  | .bool _ | .num _ => 0
  | .str _ => 1
  | _ => 2

/-- The order of a sorted list. -/
def sortCompare (a b : Value) : Ordering :=
  match a, b with
  | .str s, .str t => compareText s t
  | a, b =>
    if a.sortClass == 0 && b.sortClass == 0 then a.toDouble.totalCompare b.toDouble
    else compare a.sortClass b.sortClass

/-- `a` may stand before `b` in a sorted list. -/
def sortLe (a b : Value) : Bool := sortCompare a b != .gt

/-- Every item may stand before the next one. -/
def isSorted : List Value → Bool
  | a :: b :: rest => sortLe a b && isSorted (b :: rest)
  | _ => true

def sort (items : List Value) : List Value := items.mergeSort sortLe

end StackVM.Value
