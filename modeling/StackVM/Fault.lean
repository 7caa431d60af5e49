import StackVM.Diagnostic
import StackVM.Program.Reader

/-! # Faults

What can go wrong while a program runs. A catchable fault becomes a thrown error of the program; the
others end the run, as does a thrown error that no handler catches.
-/

namespace StackVM

/-- A fault of a running program. -/
inductive Fault where
  /-- The program or a builtin raised an error. -/
  | raised (message : String)
  /-- An operation needs more values than the stack holds. -/
  | stackUnderflow
  /-- A depth beyond the stack. -/
  | invalidStackIndex (depth : Int)
  /-- The outside world failed. -/
  | io (reason : String)
  /-- A byte that names no operation. -/
  | invalidOpcode (opcode : UInt8) (index : Nat)
  /-- An operand that names no constant. -/
  | invalidConstant (index : Int)
  /-- An operand that names no builtin. -/
  | invalidBuiltin (index : Int)
  /-- An operation that a sandboxed run refuses. -/
  | sandboxViolation (operation : String)
  /-- A thrown error that no handler caught. -/
  | uncaught (message : String) (line : Int)
deriving DecidableEq, Repr

namespace Fault

def message : Fault → String
  | .raised message => message
  | .stackUnderflow => "Stack underflow"
  | .invalidStackIndex depth => s!"Invalid stack index {Number.integerText depth}"
  | .io reason => s!"I/O error: {reason}"
  | .invalidOpcode opcode index => s!"invalid opcode {opcode.toNat} at instruction {index}"
  | .invalidConstant index => s!"Invalid constant index {Number.integerText index}"
  | .invalidBuiltin index => s!"Invalid function index {Number.integerText index}"
  | .sandboxViolation operation => s!"'{operation}' is not allowed in sandboxed mode"
  | .uncaught message line => s!"[line {Number.integerText line}] {message}"

/-- A handler of the program may catch the fault. -/
def isCatchable : Fault → Bool
  | .raised _ | .stackUnderflow | .invalidStackIndex _ | .io _ => true
  | _ => false

/-- The exit code of a run that ends with the fault. -/
def exitCode : Fault → Nat
  | .uncaught .. | .sandboxViolation _ => 1
  | _ => 2

def toDiagnostic (f : Fault) : Diagnostic :=
  match f with
  | .uncaught _ line =>
    { severity := .error, message := f.message, line := some line
      notes := ["error not caught, program terminated"] }
  | .sandboxViolation _ =>
    { severity := .error, message := f.message
      suggestion := some "run without --sandbox to allow file and process access" }
  | _ => { severity := .error, message := f.message }

end Fault

/-- The diagnostic of a program that cannot be loaded. -/
def Program.LoadError.toDiagnostic (e : Program.LoadError) : Diagnostic :=
  { severity := .error, message := e.message }

end StackVM
