/-! # Lists as sets

Items are compared with `==`. Results keep the order of first occurrences.
-/

namespace StackVM.Sequence

variable {α : Type} [BEq α]

/-- Adds an item unless it is there already. -/
def addNew (items : List α) (a : α) : List α := if items.contains a then items else items ++ [a]

def unique (items : List α) : List α := items.foldl addNew []

def union (a b : List α) : List α := unique (a ++ b)

/-- The items of the first list that occur in the second, each once. -/
def intersection (a b : List α) : List α := unique (a.filter b.contains)

/-- The items of the first list that do not occur in the second. -/
def difference (a b : List α) : List α := a.filter fun v => !b.contains v

/-- The items of either list that do not occur in the other. -/
def symmetricDifference (a b : List α) : List α := difference a b ++ difference b a

/-- No item of the first list occurs in the second. -/
def isDisjoint (a b : List α) : Bool := !a.any b.contains

/-- All items of the first list occur in the second, which is at least as long. -/
def isSubset (a b : List α) : Bool := a.all b.contains && a.length ≤ b.length

/-- The indexes, counted from zero, of the items equal to a value. -/
def indexesOf (items : List α) (a : α) : List Nat :=
  items.zipIdx.filterMap fun (v, i) => if v == a then some i else none

end StackVM.Sequence
