import StackVM.Builtin.Basic
import StackVM.Fault
import StackVM.Host.World

/-! # Calling a builtin -/

namespace StackVM

structure CallResult where
  stack : Stack
  /-- Where to go on, if not at the next instruction. -/
  jump : Option Nat := none
  warnings : List String := []
  fault : Option Fault := none
  random : Random
  host : Host

/-- Calls a builtin with the second operand and the line of the calling instruction. A builtin with
parameters takes them from the top of the stack and leaves its value there; if it fails, it leaves
nothing. -/
def Builtin.call (b : Builtin) (arg line : Int) (vars : Variables) (clock : Clock) (stack : Stack)
    (random : Random) (host : Host) : CallResult :=
  let params := stack.peek.toList
  let below := stack.below
  let give := fun (reply : Reply) =>
    ({ stack := reply.value :: below, warnings := reply.warnings, random, host } : CallResult)
  match b with
  | .operator op =>
    let effect := op.apply arg vars stack
    { stack := effect.stack, jump := effect.jump, warnings := effect.warnings, random, host }
  | .conversion f => give (f.apply params)
  | .text f => give (f.apply params)
  | .number f => give (f.apply params)
  | .list f => give (f.apply params)
  | .set f => give (f.apply params)
  | .codec f => give (f.apply params)
  | .jsonDecode =>
    match Codecs.jsonDecode (Params.get params 0) line with
    | .ok v => give v
    | .error message => { stack := below, fault := some (.raised message), random, host }
  | .time f => give (f.apply params)
  | .epochNow => give (Value.ofInt clock.seconds)
  | .draw d =>
    let (v, random) := d.apply params random
    { stack := v :: below, random, host }
  | .system call =>
    let (v, host) := call.apply params host
    { stack := v :: below, random, host }

end StackVM
