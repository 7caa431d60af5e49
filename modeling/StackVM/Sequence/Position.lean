/-! # Positions in a list

Positions count from one; negative positions count back from the end, so that minus one is the last
item. There is no position zero.
-/

namespace StackVM.Sequence

variable {α : Type}

/-- The index, counted from zero, of a position in a list of the given length. It may lie behind the
end of the list. -/
def index? (position : Int) (length : Nat) : Option Nat :=
  let index := if position < 0 then (length : Int) + position else position - 1
  if index < 0 then none else some index.toNat

/-- The index of a position that an item occupies. -/
def occupied? (position : Int) (length : Nat) : Option Nat :=
  (index? position length).filter (· < length)

/-- The index at which a list is cut for a stretch that starts at a position; zero stands for the
first one. -/
def cutBefore (start : Int) (length : Nat) : Nat :=
  if 0 < start then min (start - 1).toNat length
  else if start < 0 then (length + start).toNat else 0

/-- The index at which a list is cut for a stretch that ends with a position and starts at the index
`first`. -/
def cutAfter (stop : Int) (first length : Nat) : Nat :=
  max first (min (if 0 ≤ stop then stop else length + stop + 1).toNat length)

/-- Puts other items in place of the stretch between two positions, both included. -/
def splice (items : List α) (start stop : Int) (replacement : List α) : List α :=
  let first := cutBefore start items.length
  items.take first ++ replacement ++ items.drop (cutAfter stop first items.length)

end StackVM.Sequence
