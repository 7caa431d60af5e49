import Mathlib.Tactic.SplitIfs
import StackVM.Machine.Run

/-! # What one instruction does to the control state

The control state is the instruction pointer, the active subroutines and the active handlers. An
instruction never moves the pointer itself, only two operations change the subroutines and only two
change the handlers. A step either completes its instruction or throws to the innermost handler, so
that both stacks grow by at most one entry or are cut back to an outer part.

Beyond that, `VerbEffect` lists what a command can do and `Builtin.call_failed` how a builtin fails.
-/

namespace StackVM

/-- The verbs that use a stream or another process. -/
def Verb.isExternal : Verb → Bool
  | .print | .stdout | .stderr | .stdin | .clear | .shell _ => true
  | _ => false

/-- Only the reader of JSON fails: it has taken its parameters and raises an error. -/
theorem Builtin.call_failed {b : Builtin} {arg line : Int} {vars : Variables} {clock : Clock}
    {stack : Stack} {random : Random} {host : Host} {f : Fault}
    (failed : (b.call arg line vars clock stack random host).fault = some f) :
    b = .jsonDecode ∧ (∃ message, f = .raised message) ∧
      b.call arg line vars clock stack random host =
        { stack := stack.below, fault := some f, random, host } := by
  cases b with
  | jsonDecode =>
    refine ⟨rfl, ?_⟩
    simp only [call] at failed ⊢
    split at failed
    · cases failed
    · cases failed
      exact ⟨⟨_, rfl⟩, rfl⟩
  | _ => cases failed

namespace Machine

/-- The state is about to execute an instruction. -/
structure Executing (s : Settings) (m : Machine) (op : Opcode) (i : Instruction) : Prop where
  fetched : s.program.instructions[m.ip]? = some i
  decoded : Opcode.ofCode? i.opcode = some op

/-- The next instruction raises a fault and leaves a state behind. -/
def Raises (s : Settings) (m : Machine) (i : Instruction) (f : Fault) (left : Machine) : Prop :=
  ∃ op, m.Executing s op i ∧ m.execute s op i = .fail left f

/-- The frame of a subroutine that an instruction enters. -/
def frameFor (i : Instruction) (m : Machine) : Frame where
  returnIndex := m.ip + 1
  savedSize := m.stack.length - 1
  params := (m.peekOperand? i.operand0).getD .null

/-- The handler that an instruction installs. -/
def handlerFor (i : Instruction) (m : Machine) : Handler where
  target := target i.operand0
  savedSize := m.stack.length
  savedDepth := m.frames.length

/-- The subroutines that are active after an instruction. -/
def framesAfter (op : Opcode) (i : Instruction) (m : Machine) : List Frame :=
  match op with
  | .pushIndex => m.frameFor i :: m.frames
  | .popGotoIndex => m.frames.tail
  | _ => m.frames

/-- The handlers that are active after an instruction. -/
def handlersAfter (op : Opcode) (i : Instruction) (m : Machine) : List Handler :=
  match op with
  | .pushCatch => m.handlerFor i :: m.handlers
  | .popCatch => m.handlers.tail
  | _ => m.handlers

/-- The remembered results after an instruction. -/
def cacheAfter (op : Opcode) (i : Instruction) (m : Machine) : Cache :=
  match op with
  | .setCache => m.cache.insert i.operand0 m.cacheKey m.stack.peek
  | .deleteCache => m.cache.delete i.operand0
  | _ => m.cache

section Effects

variable (s : Settings) (i : Instruction) (m : Machine)

theorem warn_changes (line : Int) (message : String) :
    ∃ world warnings, m.warn s line message = { m with world, warnings } := by
  unfold warn
  cases s.warnings with
  | collect => exact ⟨_, _, rfl⟩
  | write format => exact ⟨_, _, rfl⟩

private theorem warnAll_changes (line : Int) (messages : List String) :
    ∃ world warnings, m.warnAll s line messages = { m with world, warnings } := by
  induction messages generalizing m with
  | nil => exact ⟨_, _, rfl⟩
  | cons message rest ih =>
    obtain ⟨world, warnings, warned⟩ := m.warn_changes s line message
    obtain ⟨world', warnings', rested⟩ := ih { m with world, warnings }
    refine ⟨world', warnings', ?_⟩
    change (m.warn s line message).warnAll s line rest = _
    rw [warned, rested]

/-- The state and the outcome of an instruction that has called a builtin. -/
def afterCall (line : Int) (r : CallResult) : Executed :=
  let m := { m with
    stack := r.stack, random := r.random, world := { m.world with host := r.host } }
  ⟨m.warnAll s line r.warnings, match r.fault with
    | some f => .error f
    | none => .ok r.jump⟩

theorem callBuiltin_missing (missing : Builtin.entry? i.operand0 = none) :
    m.callBuiltin s i = .fail m (.invalidBuiltin i.operand0) := by
  simp only [callBuiltin, missing]

theorem callBuiltin_refused {name : String} {b : Builtin}
    (found : Builtin.entry? i.operand0 = some (name, b))
    (refused : (s.sandboxed && b.isSandboxed) = true) :
    m.callBuiltin s i = .fail m (.sandboxViolation name) := by
  simp only [callBuiltin, found, refused, ↓reduceIte]

theorem callBuiltin_admitted {name : String} {b : Builtin}
    (found : Builtin.entry? i.operand0 = some (name, b))
    (admitted : (s.sandboxed && b.isSandboxed) = false) :
    m.callBuiltin s i = m.afterCall s i.line
      (b.call i.operand1 i.line m.vars m.world.clock m.stack m.random m.world.host) := by
  simp only [callBuiltin, found, admitted, Bool.false_eq_true, ↓reduceIte, afterCall]
  generalize b.call i.operand1 i.line m.vars m.world.clock m.stack m.random m.world.host = r
  cases r.fault <;> rfl

/-- A builtin works on the stack, the generator and the world only. -/
theorem callBuiltin_changes :
    ∃ stack random world warnings,
      (m.callBuiltin s i).machine = { m with stack, random, world, warnings } := by
  cases found : Builtin.entry? i.operand0 with
  | none =>
    rw [callBuiltin_missing s i m found]
    exact ⟨_, _, _, _, rfl⟩
  | some entry =>
    obtain ⟨name, b⟩ := entry
    cases refused : s.sandboxed && b.isSandboxed with
    | true =>
      rw [callBuiltin_refused s i m found refused]
      exact ⟨_, _, _, _, rfl⟩
    | false =>
      rw [callBuiltin_admitted s i m found refused]
      generalize b.call i.operand1 i.line m.vars m.world.clock m.stack m.random m.world.host = r
      obtain ⟨world, warnings, warned⟩ := warnAll_changes s
        { m with stack := r.stack, random := r.random, world := { m.world with host := r.host } }
        i.line r.warnings
      exact ⟨r.stack, r.random, world, warnings, warned⟩

/-- What a verb does: it has a result, or it fails and has none. Then only the verb that raises an
error clears the last one, and only the use of a stream or a process changes the world. -/
inductive VerbEffect (m : Machine) (verb : Verb) : Executed → Prop
  | done (last : Value) (world : World) (warnings : List Diagnostic) :
    VerbEffect m verb (.ok { m with last, world, warnings })
  | raised (error : verb = .error) (text : String) :
    VerbEffect m verb (.fail { m with last := .null } (.raised text))
  | refused (external : verb.isExternal = true) (operation : String) :
    VerbEffect m verb (.fail m (.sandboxViolation operation))
  | failed (external : verb.isExternal = true) (world : World) (message : String) :
    VerbEffect m verb (.fail { m with world } (.io message))

private theorem write_effect {verb : Verb} (external : verb.isExternal = true) (channel : Channel)
    (text : String) : m.VerbEffect verb (m.write channel text) := by
  unfold write
  split
  · exact .done _ _ _
  · exact .failed external _ _

private theorem readInput_effect {verb : Verb} (external : verb.isExternal = true) :
    m.VerbEffect verb m.readInput := by
  unfold readInput
  cases m.world.readLine with
  | mk line world =>
    cases line with
    | none | text _ => exact .done _ _ _
    | malformed | refused _ => exact .failed external _ _

private theorem afterProcess_effect (world : World) (line : Int) (verb : ShellVerb) (command : String)
    (ending : Except String Shell.Ending) (captured : List UInt8) :
    m.VerbEffect (.shell verb)
      ({ m with world }.afterProcess s line verb command ending captured) := by
  match ending, verb with
  | .error message, _ => exact .failed rfl _ _
  | .ok _, .output | .ok _, .errors | .ok _, .succeeds | .ok (.exited _), .code => exact .done _ _ _
  | .ok (.killed _), .code =>
    obtain ⟨after, warnings, warned⟩ :=
      warn_changes s { m with world } line ("Command terminated by signal: " ++ command)
    simp only [afterProcess, warned]
    exact .done _ _ _

private theorem runShell_effect (line : Int) (verb : ShellVerb) (command : String) :
    m.VerbEffect (.shell verb) (m.runShell s line verb command) := by
  unfold runShell
  split
  · exact .failed rfl _ _
  · exact m.afterProcess_effect s _ line verb command _ _

theorem runVerb_effect (line : Int) (name : String) (verb : Verb) (arguments : List Value) :
    m.VerbEffect verb (m.runVerb s line name verb arguments) := by
  cases verb with
  | print | stdout | stderr | clear => exact m.write_effect rfl _ _
  | stdin => exact m.readInput_effect rfl
  | error => exact .raised rfl _
  | shell verb =>
    simp only [runVerb]
    split
    · exact .refused rfl _
    · exact m.runShell_effect s line verb _
  | _ => exact .done _ _ _

/-- The name of the command on top of the stack. -/
def commandName (m : Machine) : String := (m.stack.peek.toList.head?.map Value.text).getD ""

theorem runCommand_known (line : Int) {verb : Verb} (named : Verb.ofName? m.commandName = some verb) :
    m.runCommand s line = { m with stack := m.stack.below }.runVerb s line m.commandName verb
      m.stack.peek.toList.tail := by
  unfold commandName at named ⊢
  simp only [runCommand, named]

theorem runCommand_unknown (line : Int) (unnamed : Verb.ofName? m.commandName = none) :
    m.runCommand s line = .fail { m with stack := m.stack.below }
      (.raised ("Unknown command: " ++ m.commandName)) := by
  unfold commandName at unnamed ⊢
  simp only [runCommand, unnamed]

/-- A command is taken off the stack, and then its verb runs if there is one of its name. -/
theorem runCommand_cases (line : Int) :
    (Verb.ofName? m.commandName = none ∧ m.runCommand s line = .fail { m with stack := m.stack.below }
        (.raised ("Unknown command: " ++ m.commandName))) ∨
      ∃ verb, Verb.ofName? m.commandName = some verb ∧
        VerbEffect { m with stack := m.stack.below } verb (m.runCommand s line) := by
  cases named : Verb.ofName? m.commandName with
  | none => exact .inl ⟨rfl, runCommand_unknown s m line named⟩
  | some verb =>
    rw [runCommand_known s m line named]
    exact .inr ⟨verb, rfl, runVerb_effect ..⟩

/-- A command works on the stack, the last result and the world only. -/
theorem runCommand_changes (line : Int) :
    ∃ stack last world warnings,
      (m.runCommand s line).machine = { m with stack, last, world, warnings } := by
  obtain ⟨_, failed⟩ | ⟨verb, _, effect⟩ := m.runCommand_cases s line
  · rw [failed]
    exact ⟨_, _, _, _, rfl⟩
  · generalize m.runCommand s line = result at effect
    cases effect <;> exact ⟨_, _, _, _, rfl⟩

/-- An instruction that names a constant either has it or fails at once. -/
theorem withName_cases (use : String → Executed) :
    m.withName s i use = .fail m (.invalidConstant i.operand0) ∨
      ∃ v, s.program.constant? i.operand0 = some v ∧ m.withName s i use = use v.text := by
  unfold withName
  cases s.program.constant? i.operand0 with
  | none => exact .inl rfl
  | some v => exact .inr ⟨v, rfl, rfl⟩

private theorem insertVariable_changes :
    ∃ stack vars world warnings,
      (m.insertVariable s i).machine = { m with stack, vars, world, warnings } := by
  unfold insertVariable
  dsimp only
  split
  · exact ⟨_, _, _, _, rfl⟩
  · next e _ =>
    obtain ⟨world, warnings, warned⟩ := warn_changes s { m with stack := m.stack.below.below.below }
      i.line (e.message m.stack.below.below.peek.text)
    rw [warned]
    exact ⟨_, _, _, _, rfl⟩

private theorem destructure_changes :
    ∃ stack vars, (m.destructure s i).machine = { m with stack, vars } := by
  unfold destructure
  dsimp only
  split <;> exact ⟨_, _, rfl⟩

/-- Every operation leaves the pointer alone and changes the stacks of control and the remembered
results as stated by `framesAfter`, `handlersAfter` and `cacheAfter`. -/
theorem execute_changes (op : Opcode) :
    ∃ stack vars last random world warnings, (m.execute s op i).machine =
      { m with
        stack, vars, last, random, world, warnings
        frames := m.framesAfter op i
        handlers := m.handlersAfter op i
        cache := m.cacheAfter op i } := by
  cases op with
  | call =>
    obtain ⟨stack, random, world, warnings, same⟩ := m.callBuiltin_changes s i
    exact ⟨stack, _, _, random, world, warnings, same⟩
  | runCommand =>
    obtain ⟨stack, last, world, warnings, same⟩ := m.runCommand_changes s i.line
    exact ⟨stack, _, last, _, world, warnings, same⟩
  | set | get | deleteVar =>
    simp only [execute]
    obtain missing | ⟨v, _, present⟩ := m.withName_cases s i _
    · rw [missing]
      exact ⟨_, _, _, _, _, _, rfl⟩
    · rw [present]
      exact ⟨_, _, _, _, _, _, rfl⟩
  | push | copy | swap | getCacheElseJump =>
    simp only [execute]
    split <;> exact ⟨_, _, _, _, _, _, rfl⟩
  | popGotoIndex =>
    simp only [execute, leave, framesAfter, handlersAfter, cacheAfter]
    split
    · next none =>
      obtain ⟨world, warnings, warned⟩ := m.warn_changes s i.line
        "Return without an active subroutine call. Ignoring!"
      rw [warned, none]
      exact ⟨_, _, _, _, _, _, rfl⟩
    · next f frames some =>
      rw [some]
      cases keepsValue s f <;> exact ⟨_, _, _, _, _, _, rfl⟩
  | variableInsert =>
    obtain ⟨stack, vars, world, warnings, same⟩ := m.insertVariable_changes s i
    exact ⟨stack, vars, _, _, world, warnings, same⟩
  | destructure =>
    obtain ⟨stack, vars, same⟩ := m.destructure_changes s i
    exact ⟨stack, vars, _, _, _, _, same⟩
  | _ => exact ⟨_, _, _, _, _, _, rfl⟩

theorem execute_control (op : Opcode) :
    (m.execute s op i).machine.ip = m.ip ∧
      (m.execute s op i).machine.frames = m.framesAfter op i ∧
      (m.execute s op i).machine.handlers = m.handlersAfter op i := by
  obtain ⟨stack, vars, last, random, world, warnings, same⟩ := m.execute_changes s i op
  rw [same]
  exact ⟨rfl, rfl, rfl⟩

theorem execute_cache (op : Opcode) : (m.execute s op i).machine.cache = m.cacheAfter op i := by
  obtain ⟨stack, vars, last, random, world, warnings, same⟩ := m.execute_changes s i op
  rw [same]

end Effects

section Steps

variable {s : Settings} {m next left : Machine} {op : Opcode} {i : Instruction} {f : Fault}

/-- A failing instruction has not touched the control state. -/
theorem Raises.control (raises : m.Raises s i f left) :
    left.ip = m.ip ∧ left.frames = m.frames ∧ left.handlers = m.handlers := by
  obtain ⟨op, _, failed⟩ := raises
  have control := m.execute_control s i op
  rw [failed] at control
  -- The four operations that change the two stacks never fail.
  cases op with
  | pushIndex | pushCatch | popCatch => simp [execute, enter, Executed.ok, Executed.fail] at failed
  | popGotoIndex =>
    simp only [execute, leave] at failed
    split at failed <;> simp [Executed.ok, Executed.jump, Executed.fail] at failed
  | _ => exact control

theorem step_of_end (ended : s.program.instructions[m.ip]? = none) : m.step s = .finished m := by
  simp only [step, ended]

theorem step_of_undecoded (fetched : s.program.instructions[m.ip]? = some i)
    (undecoded : Opcode.ofCode? i.opcode = none) :
    m.step s = .failed m (.invalidOpcode i.opcode m.ip) := by
  simp only [step, fetched, undecoded]

theorem Executing.step_ok {target : Option Nat} (executing : m.Executing s op i)
    (ran : m.execute s op i = ⟨left, .ok target⟩) :
    m.step s = .running { left with ip := target.getD (m.ip + 1) } := by
  simp only [step, executing.fetched, executing.decoded, ran]

theorem Raises.step (raises : m.Raises s i f left) : m.step s = left.recover s f i.line := by
  obtain ⟨op, executing, failed⟩ := raises
  simp only [Machine.step, executing.fetched, executing.decoded, failed, Executed.fail]

/-- A catchable fault goes to the innermost handler. -/
theorem Raises.step_caught {h : Handler} {outer : List Handler} (raises : m.Raises s i f left)
    (catchable : f.isCatchable = true) (active : m.handlers = h :: outer) :
    m.step s = .running (left.throwTo s h f.message i.line) := by
  rw [raises.step]
  simp only [recover, catchable, Bool.not_true, Bool.false_eq_true, ↓reduceIte, raises.control.2.2, active]

/-- A fault that cannot be caught ends the run, whatever handlers are active. -/
theorem Raises.step_fatal (raises : m.Raises s i f left) (fatal : f.isCatchable = false) :
    m.step s = .failed left f := by
  rw [raises.step]
  simp only [recover, fatal, Bool.not_false, ↓reduceIte]

/-- What a step can do: run off the program, meet a byte that is no operation, complete an
instruction or raise a fault. -/
theorem step_cases (s : Settings) (m : Machine) :
    (s.program.instructions[m.ip]? = none ∧ m.step s = .finished m) ∨
    (∃ i, s.program.instructions[m.ip]? = some i ∧ Opcode.ofCode? i.opcode = none ∧
      m.step s = .failed m (.invalidOpcode i.opcode m.ip)) ∨
    (∃ op i left target, m.Executing s op i ∧ m.execute s op i = ⟨left, .ok target⟩ ∧
      m.step s = .running { left with ip := target.getD (m.ip + 1) }) ∨
    ∃ i f left, m.Raises s i f left ∧ m.step s = left.recover s f i.line := by
  cases fetched : s.program.instructions[m.ip]? with
  | none => exact .inl ⟨rfl, step_of_end fetched⟩
  | some i =>
    cases decoded : Opcode.ofCode? i.opcode with
    | none => exact .inr (.inl ⟨i, rfl, decoded, step_of_undecoded fetched decoded⟩)
    | some op =>
      have executing : m.Executing s op i := ⟨fetched, decoded⟩
      cases ran : m.execute s op i with
      | mk left outcome =>
        cases outcome with
        | ok target =>
          exact .inr (.inr (.inl ⟨op, i, left, target, executing, ran, executing.step_ok ran⟩))
        | error f =>
          have raises : m.Raises s i f left := ⟨op, executing, ran⟩
          exact .inr (.inr (.inr ⟨i, f, left, raises, raises.step⟩))

/-- A step that goes on has completed its instruction or thrown to the innermost handler. -/
theorem step_running (stepped : m.step s = .running next) :
    (∃ op i left target, m.Executing s op i ∧ m.execute s op i = ⟨left, .ok target⟩ ∧
      next = { left with ip := target.getD (m.ip + 1) }) ∨
    ∃ i f left h outer, m.Raises s i f left ∧ f.isCatchable = true ∧ m.handlers = h :: outer ∧
      next = left.throwTo s h f.message i.line := by
  obtain ⟨_, ended⟩ | ⟨_, _, _, failed⟩ | ⟨op, i, left, target, executing, ran, went⟩ |
    ⟨i, f, left, raises, recovered⟩ := step_cases s m
  · rw [ended] at stepped
    cases stepped
  · rw [failed] at stepped
    cases stepped
  · rw [went] at stepped
    cases stepped
    exact .inl ⟨op, i, left, target, executing, ran, rfl⟩
  · rw [recovered, recover, raises.control.2.2] at stepped
    split_ifs at stepped with fatal
    split at stepped
    · next h outer active =>
      cases stepped
      exact .inr ⟨i, f, left, h, outer, raises, by simpa using fatal, active, rfl⟩
    · cases stepped

/-- A step that goes on had an instruction to execute. -/
theorem step_running_lt (stepped : m.step s = .running next) :
    m.ip < s.program.instructions.size := by
  obtain ⟨_, _, _, _, executing, _, _⟩ | ⟨_, _, _, _, _, ⟨_, executing, _⟩, _⟩ := step_running stepped
  · exact (Array.getElem?_eq_some_iff.mp executing.fetched).1
  · exact (Array.getElem?_eq_some_iff.mp executing.fetched).1

/-- A step enters one subroutine, or it cuts the active ones back to an outer part. -/
theorem step_frames (stepped : m.step s = .running next) :
    next.frames <:+ m.frames ∨
      ∃ i, m.Executing s .pushIndex i ∧ next.frames = m.frameFor i :: m.frames ∧
        next.ip = m.ip + 1 := by
  obtain ⟨op, i, left, target, executing, ran, rfl⟩ | ⟨i, f, left, h, outer, raises, _, _, rfl⟩ :=
    step_running stepped
  · have frames := (m.execute_control s i op).2.1
    rw [ran] at frames
    change left.frames = _ at frames
    cases op with
    | pushIndex =>
      obtain ⟨rfl, rfl⟩ : { m with frames := m.frameFor i :: m.frames } = left ∧ none = target := by
        simpa [execute, enter, Executed.ok, frameFor] using ran
      exact .inr ⟨i, executing, rfl, rfl⟩
    | popGotoIndex =>
      refine .inl ?_
      change left.frames <:+ m.frames
      rw [frames]
      exact List.tail_suffix _
    | _ => exact .inl (frames ▸ List.suffix_refl _)
  · refine .inl ?_
    simp only [throwTo, raises.control.2.1]
    exact List.drop_suffix _ _

/-- A step installs one handler, or it cuts the active ones back to an outer part. -/
theorem step_handlers (stepped : m.step s = .running next) :
    next.handlers <:+ m.handlers ∨
      ∃ i, m.Executing s .pushCatch i ∧ next.handlers = m.handlerFor i :: m.handlers := by
  obtain ⟨op, i, left, target, executing, ran, rfl⟩ | ⟨i, f, left, h, outer, raises, _, _, rfl⟩ :=
    step_running stepped
  · have handlers := (m.execute_control s i op).2.2
    rw [ran] at handlers
    change left.handlers = _ at handlers
    cases op with
    | pushCatch => exact .inr ⟨i, executing, handlers⟩
    | popCatch =>
      refine .inl ?_
      change left.handlers <:+ m.handlers
      rw [handlers]
      exact List.tail_suffix _
    | _ => exact .inl (handlers ▸ List.suffix_refl _)
  · refine .inl ?_
    simp only [throwTo, raises.control.2.2]
    exact List.tail_suffix _

end Steps

end Machine

end StackVM
