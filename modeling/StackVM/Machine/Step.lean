import StackVM.Machine.Command

/-! # Executing an instruction -/

namespace StackVM.Machine

/-- A non-negative operand as an index; zero for a negative one. -/
def target (operand : Int) : Nat := operand.toNat

def peekOperand? (m : Machine) (operand : Int) : Option Value :=
  if operand < 0 then none else m.stack.peekAt? operand.toNat

def callBuiltin (s : Settings) (i : Instruction) (m : Machine) : Executed :=
  match Builtin.entry? i.operand0 with
  | none => .fail m (.invalidBuiltin i.operand0)
  | some (name, b) =>
    if s.sandboxed && b.isSandboxed then .fail m (.sandboxViolation name)
    else
      let r := b.call i.operand1 i.line m.vars m.world.clock m.stack m.random m.world.host
      let m := { m with
        stack := r.stack, random := r.random, world := { m.world with host := r.host } }
      let m := m.warnAll s i.line r.warnings
      match r.fault with
      | some f => .fail m f
      | none => ⟨m, .ok r.jump⟩

/-- Goes on with the text of a constant. -/
def withName (s : Settings) (i : Instruction) (m : Machine) (use : String → Executed) : Executed :=
  match s.program.constant? i.operand0 with
  | some v => use v.text
  | none => .fail m (.invalidConstant i.operand0)

/-- Enters a subroutine: the frame remembers the next instruction and the size of the stack without
its top. -/
def enter (i : Instruction) (m : Machine) : Executed :=
  let frame : Frame :=
    { returnIndex := m.ip + 1
      savedSize := m.stack.length - 1
      params := (m.peekOperand? i.operand0).getD .null }
  .ok { m with frames := frame :: m.frames }

/-- The instruction after the one that entered the subroutine keeps the value of the subroutine on
the stack. -/
def keepsValue (s : Settings) (f : Frame) : Bool :=
  (s.program.instructions[f.returnIndex]?).any (·.operand0 != 0)

def leave (s : Settings) (i : Instruction) (m : Machine) : Executed :=
  match m.frames with
  | [] => .ok (m.warn s i.line "Return without an active subroutine call. Ignoring!")
  | f :: frames =>
    let m := if keepsValue s f then { m with frames }
      else { m with frames, last := m.stack.peek, stack := m.stack.below.truncate f.savedSize }
    .jump m (f.returnIndex + 1)

/-- Inserts a value into a variable; a refusal is a warning. -/
def insertVariable (s : Settings) (i : Instruction) (m : Machine) : Executed :=
  let new := m.stack.peek
  let path := m.stack.below.peek
  let name := m.stack.below.below.peek.text
  let m := { m with stack := m.stack.below.below.below }
  match m.vars.insertInto name path new with
  | .ok vars => .ok { m with vars }
  | .error e => .ok (m.warn s i.line (e.message name))

/-- Sets the variables that a constant names to the items of the top. -/
def destructure (s : Settings) (i : Instruction) (m : Machine) : Executed :=
  let values := m.stack.peek.toList
  let m := { m with stack := m.stack.below }
  match s.program.constant? i.operand0 with
  | some names =>
    .ok { m with vars := m.vars.setAll (names.toList.map Value.text) values }
  | none => .fail m (.invalidConstant i.operand0)

def execute (s : Settings) (op : Opcode) (i : Instruction) (m : Machine) : Executed :=
  match op with
  | .call => m.callBuiltin s i
  | .set => m.withName s i fun name =>
    .ok { m with stack := m.stack.below, vars := m.vars.set name m.stack.peek }
  | .get => m.withName s i fun name => .ok (m.push (m.vars.get name m.params?))
  | .push =>
    match s.program.constant? i.operand0 with
    | some v => .ok (m.push v)
    | none => .fail m (.invalidConstant i.operand0)
  | .pop => .ok { m with stack := m.stack.below }
  | .runCommand => m.runCommand s i.line
  | .pushResult => .ok (m.push m.last)
  | .pushIndex => m.enter i
  | .popGotoIndex => m.leave s i
  | .copy =>
    match m.peekOperand? i.operand0 with
    | some v => .ok (m.push v)
    | none => .fail m (.invalidStackIndex i.operand0)
  | .deleteVar => m.withName s i fun name => .ok { m with vars := m.vars.delete name }
  | .swap =>
    match m.stack.swap? with
    | some stack => .ok { m with stack }
    | none => .fail m .stackUnderflow
  | .popUntilNull => .ok { m with stack := m.stack.popUntilNull i.operand0.toNat }
  | .getCacheElseJump =>
    match m.cache.get? i.operand0 m.cacheKey with
    | some v => .ok (m.push v)
    | none => .jump m (target i.operand1)
  | .setCache => .ok { m with cache := m.cache.insert i.operand0 m.cacheKey m.stack.peek }
  | .deleteCache => .ok { m with cache := m.cache.delete i.operand0 }
  | .pushCatch =>
    let handler : Handler :=
      { target := target i.operand0
        savedSize := m.stack.length
        savedDepth := m.frames.length }
    .ok { m with handlers := handler :: m.handlers }
  | .variableInsert => m.insertVariable s i
  | .destructure => m.destructure s i
  | .popCatch => .ok { m with handlers := m.handlers.tail }

end StackVM.Machine
