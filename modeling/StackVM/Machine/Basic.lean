import StackVM.Builtin.Call
import StackVM.Machine.Opcode
import StackVM.Value.Fingerprint

/-! # The machine

A machine runs a program. Its settings stay the same during a run, its state changes from
instruction to instruction.
-/

namespace StackVM

structure Frame where
  /-- The instruction after the one that entered the subroutine. -/
  returnIndex : Nat
  /-- The size of the stack to return to. -/
  savedSize : Nat
  /-- The parameters of the subroutine. -/
  params : Value

structure Handler where
  target : Nat
  /-- The size of the stack when the handler was installed. -/
  savedSize : Nat
  /-- The number of active subroutines when the handler was installed. -/
  savedDepth : Nat
deriving DecidableEq, Repr

inductive WarningSink where
  /-- They are kept in the machine. -/
  | collect
  /-- They are written to the error stream. -/
  | write (format : Diagnostic.Format)
deriving DecidableEq, Repr

/-- What stays the same during a run. -/
structure Settings where
  program : Program
  sandboxed : Bool := false
  warnings : WarningSink := .collect

/-- The memory of earlier results: the number of a cache and a key, with the value. -/
abbrev Cache := List ((Int × String) × Value)

namespace Cache

def get? (c : Cache) (id : Int) (key : String) : Option Value :=
  (c.find? fun entry => entry.1 == (id, key)).map (·.2)

/-- Stores a value under a key. -/
def insert (c : Cache) (id : Int) (key : String) (v : Value) : Cache :=
  ((id, key), v) :: c.filter fun entry => entry.1 != (id, key)

/-- Forgets all keys of a cache. -/
def delete (c : Cache) (id : Int) : Cache := c.filter fun entry => entry.1.1 != id

end Cache

/-- The state of a run. -/
structure Machine where
  stack : Stack := []
  vars : Variables := {}
  /-- The next instruction. -/
  ip : Nat := 0
  /-- The result of the last command. -/
  last : Value := .null
  cache : Cache := []
  /-- The active subroutines, the innermost first. -/
  frames : List Frame := []
  /-- The active handlers, the innermost first. -/
  handlers : List Handler := []
  random : Random
  world : World
  /-- The collected warnings in order. -/
  warnings : List Diagnostic := []

namespace Machine

def warn (s : Settings) (m : Machine) (line : Int) (message : String) : Machine :=
  let d : Diagnostic := { severity := .warning, message, line := some line }
  match s.warnings with
  | .collect => { m with warnings := m.warnings ++ [d] }
  | .write format => { m with world := m.world.printError (d.streamText format) }

def warnAll (s : Settings) (m : Machine) (line : Int) (messages : List String) : Machine :=
  messages.foldl (fun m message => m.warn s line message) m

/-- The parameters of the innermost subroutine. -/
def params? (m : Machine) : Option Value := m.frames.head?.map (·.params)

/-- The key under which results for the current parameters are remembered. -/
def cacheKey (m : Machine) : String := (m.params?.getD .null).fingerprint

def push (m : Machine) (v : Value) : Machine := { m with stack := v :: m.stack }

end Machine

/-- The state after an instruction, and where to go on or what went wrong. -/
structure Executed where
  machine : Machine
  /-- Where to go on if not at the next instruction, or the fault. -/
  outcome : Except Fault (Option Nat)

namespace Executed

/-- The instruction succeeded, the next one follows. -/
def ok (m : Machine) : Executed := ⟨m, .ok none⟩

/-- The instruction succeeded and goes on elsewhere. -/
def jump (m : Machine) (target : Nat) : Executed := ⟨m, .ok (some target)⟩

def fail (m : Machine) (f : Fault) : Executed := ⟨m, .error f⟩

end Executed

end StackVM
