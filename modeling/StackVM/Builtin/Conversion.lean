import StackVM.Builtin.Params

/-! # Builtins that convert values -/

namespace StackVM

inductive Conversion where
  | typeName
  | bool
  | num
  | str
deriving DecidableEq, Repr

def Conversion.apply (c : Conversion) (p : Params) : Value :=
  match c with
  | .typeName => .str (p.get 0).typeName
  | .bool => .bool (p.flag 0)
  | .num => .num (p.double 0)
  | .str => .str (p.text 0)

end StackVM
