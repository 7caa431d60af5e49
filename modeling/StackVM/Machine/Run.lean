import StackVM.Machine.Step

/-! # Running a program

A catchable fault is thrown to the innermost handler: the stack and the subroutines are cut back to
what they were when the handler was installed, and a record of the error is put on the stack. A
fault that no handler catches ends the run.
-/

namespace StackVM

namespace Machine

/-- The lines of the subroutines that a throw leaves, the outermost first, and the line of the
fault. -/
def trace (s : Settings) (left : List Frame) (line : Int) : List Value :=
  left.reverse.map (fun f => .ofInt (s.program.lineAt f.returnIndex)) ++ [.ofInt line]

def errorRecord (message : String) (line : Int) (trace : List Value) : Value :=
  .obj [("line", .ofInt line), ("message", .str message), ("stack", .arr trace)]

def throwTo (s : Settings) (m : Machine) (h : Handler) (message : String) (line : Int) : Machine :=
  let leaving := m.frames.length - h.savedDepth
  let record := errorRecord message line (trace s (m.frames.take leaving) line)
  { m with
    ip := h.target
    handlers := m.handlers.tail
    frames := m.frames.drop leaving
    stack := record :: m.stack.truncate h.savedSize }

/-- What follows a step. -/
inductive Progress where
  /-- The run goes on. -/
  | running (m : Machine)
  /-- The program has ended. -/
  | finished (m : Machine)
  /-- The run has failed. -/
  | failed (m : Machine) (f : Fault)

/-- Handles a fault of an instruction. -/
def recover (s : Settings) (m : Machine) (f : Fault) (line : Int) : Progress :=
  if !f.isCatchable then .failed m f
  else match m.handlers with
    | h :: _ => .running (m.throwTo s h f.message line)
    | [] => .failed m (.uncaught f.message line)

def step (s : Settings) (m : Machine) : Progress :=
  match s.program.instructions[m.ip]? with
  | none => .finished m
  | some i =>
    match Opcode.ofCode? i.opcode with
    | none => .failed m (.invalidOpcode i.opcode m.ip)
    | some op =>
      let r := m.execute s op i
      match r.outcome with
      | .ok next => .running { r.machine with ip := next.getD (m.ip + 1) }
      | .error f => recover s r.machine f i.line

/-- Runs until the program ends or fails, for at most `fuel` steps. -/
def run (s : Settings) : Nat → Machine → Progress
  | 0, m => .running m
  | fuel + 1, m =>
    match m.step s with
    | .running m => run s fuel m
    | ending => ending

end Machine

/-- The version that a program without one runs under. -/
def defaultVersion : String := "0.9.0"

def Machine.start (p : Program) (arguments : List String) (seed : UInt64) (world : World) :
    Machine :=
  { vars := { version := p.version.getD defaultVersion, arguments }
    random := Random.ofSeed seed
    world }

end StackVM
