/-! # Operation codes -/

namespace StackVM

inductive Opcode where
  | call
  | set
  | get
  | push
  | pop
  | runCommand
  | pushResult
  | pushIndex
  | popGotoIndex
  | copy
  | deleteVar
  | swap
  | popUntilNull
  | getCacheElseJump
  | setCache
  | deleteCache
  | pushCatch
  | variableInsert
  | destructure
  | popCatch
deriving DecidableEq, Repr

namespace Opcode

/-- The operations in the order of their codes, which start at one. -/
def all : List Opcode :=
  [.call, .set, .get, .push, .pop, .runCommand, .pushResult, .pushIndex, .popGotoIndex, .copy,
    .deleteVar, .swap, .popUntilNull, .getCacheElseJump, .setCache, .deleteCache, .pushCatch,
    .variableInsert, .destructure, .popCatch]

def ofCode? (code : UInt8) : Option Opcode :=
  if code = 0 then none else all[code.toNat - 1]?

end Opcode

end StackVM
