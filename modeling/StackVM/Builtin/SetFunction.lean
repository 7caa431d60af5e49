import StackVM.Builtin.ListFunction

/-! # Builtins on arrays as sets -/

namespace StackVM

/-- Functions of two arrays. -/
inductive SetFunction where
  | union
  | intersection
  | difference
  | symmetricDifference
  | isDisjoint
  | isSubset
  | isSuperset
deriving DecidableEq, Repr

namespace SetFunction

/-- The name in the warning about operands that are no arrays. -/
def title : SetFunction → String
  | .union => "Union"
  | .intersection => "Intersection"
  | .difference => "Difference"
  | .symmetricDifference => "Symmetric difference"
  | .isDisjoint => "Is disjoint"
  | .isSubset => "Is subset"
  | .isSuperset => "Is superset"

/-- The value for two arrays. -/
def ofArrays (f : SetFunction) (a b : List Value) : Value :=
  match f with
  | .union => .arr (Sequence.union a b)
  | .intersection => .arr (Sequence.intersection a b)
  | .difference => .arr (Sequence.difference a b)
  | .symmetricDifference => .arr (Sequence.symmetricDifference a b)
  | .isDisjoint => .bool (Sequence.isDisjoint a b)
  | .isSubset => .bool (Sequence.isSubset a b)
  | .isSuperset => .bool (Sequence.isSubset b a)

/-- The value if an operand is no array. -/
def fallback (f : SetFunction) (a b : Value) : Value :=
  match f with
  | .union | .symmetricDifference => Lists.eitherArray a b
  | .intersection => .arr []
  | .difference => Lists.eitherArray a .null
  | .isDisjoint | .isSubset | .isSuperset => .bool false

def apply (f : SetFunction) (p : Params) : Reply :=
  match p.get 0, p.get 1 with
  | .arr a, .arr b => f.ofArrays a b
  | a, b => .warn (f.title ++ " requires two arrays. Result may be unexpected.") (f.fallback a b)

end SetFunction

end StackVM
