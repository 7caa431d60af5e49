import StackVM.Value.Basic

/-! # Programs

A program is a list of instructions with a pool of constants. An instruction carries its operation
code as written, two 64-bit operands and the source line it came from.
-/

namespace StackVM

structure Instruction where
  opcode : UInt8
  operand0 : Int
  operand1 : Int
  line : Int
deriving DecidableEq, Repr, Inhabited

namespace Instruction

/-- The number lies in the range of a signed 64-bit integer. -/
def fitsInt64 (n : Int) : Bool := -0x8000000000000000 ≤ n && n < 0x8000000000000000

/-- Lines beyond 32 bits are recorded as the greatest line number. -/
def clampLine (n : Int) : Int := if -0x80000000 ≤ n && n < 0x80000000 then n else 0x7fffffff

/-- The instruction of four numbers. An operation code outside a byte becomes zero, which names no
operation. -/
def ofNumbers (opcode operand0 operand1 line : Int) : Instruction :=
  { opcode := if 0 ≤ opcode && opcode ≤ 255 then opcode.toNat.toUInt8 else 0
    operand0, operand1
    line := clampLine line }

end Instruction

/-- A program. -/
structure Program where
  version : Option String := none
  instructions : Array Instruction := #[]
  constants : Array Value := #[]
deriving Inhabited

namespace Program

/-- The source line of an instruction; zero beyond the end of the program. -/
def lineAt (p : Program) (index : Nat) : Int := (p.instructions[index]?.map (·.line)).getD 0

/-- The constant at an operand, if there is one. -/
def constant? (p : Program) (index : Int) : Option Value :=
  if index < 0 then none else p.constants[index.toNat]?

end Program

end StackVM
