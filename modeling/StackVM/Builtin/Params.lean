import StackVM.Value.Basic

/-! # Parameters and replies of builtins -/

namespace StackVM

/-- The parameters of a builtin; missing ones read as null. -/
abbrev Params := List Value

namespace Params

def get (p : Params) (i : Nat) : Value := p.getD i .null

/-- A parameter as a number. -/
def double (p : Params) (i : Nat) : Double := (p.get i).toDouble

/-- A parameter as a number, where the sign of a NaN does not count. -/
def num (p : Params) (i : Nat) : Float := (p.get i).toNumber

def int (p : Params) (i : Nat) : Int := (p.get i).toInt

def text (p : Params) (i : Nat) : String := (p.get i).text

def chars (p : Params) (i : Nat) : List Char := (p.text i).toList

def list (p : Params) (i : Nat) : List Value := (p.get i).toList

def flag (p : Params) (i : Nat) : Bool := (p.get i).truthy

end Params

/-- The result of a builtin and the warnings it gives. -/
structure Reply where
  value : Value
  warnings : List String := []

def Reply.warn (warning : String) (value : Value) : Reply := ⟨value, [warning]⟩

instance : Coe Value Reply := ⟨fun value => { value }⟩

/-- The greatest width to which a text is filled up. -/
def maxWidth : Nat := 32768

/-- A width and the warning about it, if it had to be reduced. -/
def clampWidth (name : String) (raw : Float) : Nat × List String :=
  let width := if Number.isNaN raw then 0.0 else (Double.maximum raw 0.0).toFloat
  if Number.ofNat maxWidth < width then
    (maxWidth, [name ++ "() width " ++ Number.text width ++ " exceeds the maximum of " ++
      Number.integerText maxWidth ++ ". Width clamped."])
  else (Number.toNat width, [])

end StackVM
