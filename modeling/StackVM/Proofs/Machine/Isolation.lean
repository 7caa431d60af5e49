import StackVM.Proofs.Machine.Segment

/-! # A sandboxed run does not reach the host

The host is the files, the environment variables and the other processes. A sandboxed run refuses
the builtins that touch it and all command lines before they start, and no handler catches the
refusal. Every other instruction gives the same result for every host and leaves it as it is. So two
sandboxed runs that start in worlds with different hosts go through the same states but for the host.
-/

namespace StackVM

/-- Some call of the builtin depends on the host or changes it. -/
def Builtin.TouchesHost (b : Builtin) : Prop :=
  ∃ arg line vars clock stack random host other,
    b.call arg line vars clock stack random other ≠
      { b.call arg line vars clock stack random host with host := other }

namespace SystemCall

/-- A host with a file, an empty directory and a variable. -/
private def furnished : Host where
  files :=
    { root := .directory 0 [("d", .directory 0 []), ("f", .file 0)], working := []
      bodies := #[⟨⟨#[65]⟩, 0, none, 0⟩] }
  environment := [("V", "x")]
  process := fun job => ⟨.ok (.exited 0), job.files, job.input, [], []⟩

/-- A host without anything. -/
private def bare : Host :=
  { furnished with files := { root := .directory 0 [], working := [] }, environment := [] }

/-- Parameters with which an operation tells the two hosts apart. -/
private def probe : SystemCall → Params
  | .envGet => [.str "V"]
  | .fileWrite | .fileAppend | .dirCreate => [.str "d/x"]
  | .fileCopy | .fileMove => [.str "f", .str "g"]
  | .dirDelete => [.str "d"]
  | .dirList => [.str "."]
  | _ => [.str "f"]

private theorem probe_furnished (call : SystemCall) :
    (call.apply (probe call) furnished).1.truthy = true := by
  cases call <;> decide +kernel

private theorem probe_bare (call : SystemCall) :
    (call.apply (probe call) bare).1.truthy = false := by
  cases call <;> decide +kernel

end SystemCall

/-- A builtin outside the sandbox hands the host on and looks at nothing in it. -/
theorem Builtin.call_host {b : Builtin} (free : b.isSandboxed = false) (arg line : Int)
    (vars : Variables) (clock : Clock) (stack : Stack) (random : Random) (host other : Host) :
    b.call arg line vars clock stack random other =
      { b.call arg line vars clock stack random host with host := other } := by
  cases b with
  | system call => cases free
  | jsonDecode =>
    simp only [call]
    split <;> rfl
  | _ => rfl

/-- The sandbox refuses exactly the builtins that touch the host. -/
theorem Builtin.touchesHost_iff {b : Builtin} : b.TouchesHost ↔ b.isSandboxed = true := by
  constructor
  · rintro ⟨arg, line, vars, clock, stack, random, host, other, differs⟩
    cases free : b.isSandboxed with
    | true => rfl
    | false => exact (differs (call_host free arg line vars clock stack random host other)).elim
  · intro refused
    cases b with
    | system call =>
      -- One call that gives a true value on the furnished host and a false one on the bare host.
      refine ⟨0, 0, {}, ⟨0, 0⟩, [.arr call.probe], ⟨0⟩, SystemCall.furnished, SystemCall.bare, ?_⟩
      intro same
      have tops : (call.apply call.probe SystemCall.bare).1.truthy =
          (call.apply call.probe SystemCall.furnished).1.truthy :=
        congrArg (fun r => r.stack.peek.truthy) same
      rw [call.probe_bare, call.probe_furnished] at tops
      cases tops
    | _ => cases refused

/-- The same outcome of an instruction with another host. -/
def Executed.withHost (h : Host) (r : Executed) : Executed :=
  { r with machine := { r.machine with world := { r.machine.world with host := h } } }

namespace Machine

/-- The same state with another host. -/
def withHost (h : Host) (m : Machine) : Machine := { m with world := { m.world with host := h } }

/-- The same progress of a run with another host. -/
def Progress.withHost (h : Host) : Progress → Progress
  | .running m => .running (m.withHost h)
  | .finished m => .finished (m.withHost h)
  | .failed m f => .failed (m.withHost h) f

section Effects

variable (s : Settings) (h : Host) (m : Machine)

@[simp] theorem withHost_stack : (m.withHost h).stack = m.stack := rfl

@[simp] theorem withHost_vars : (m.withHost h).vars = m.vars := rfl

@[simp] theorem withHost_frames : (m.withHost h).frames = m.frames := rfl

@[simp] theorem withHost_handlers : (m.withHost h).handlers = m.handlers := rfl

theorem warn_withHost (line : Int) (message : String) :
    (m.withHost h).warn s line message = (m.warn s line message).withHost h := by
  unfold warn
  cases s.warnings <;> rfl

private theorem warnAll_withHost (line : Int) (messages : List String) :
    (m.withHost h).warnAll s line messages = (m.warnAll s line messages).withHost h := by
  induction messages generalizing m with
  | nil => rfl
  | cons message rest ih =>
    change ((m.withHost h).warn s line message).warnAll s line rest = _
    rw [warn_withHost, ih]
    rfl

private theorem nextLine_withHost (w : World) :
    ({ w with host := h } : World).nextLine =
      (w.nextLine.1, { w.nextLine.2 with host := h }) := by
  unfold World.nextLine
  dsimp only
  cases (World.splitLine (w.taken ++ w.input)).1.isEmpty with
  | true => rfl
  | false => cases Text.fromUtf8? (World.splitLine (w.taken ++ w.input)).1 <;> rfl

private theorem readLine_withHost (w : World) :
    ({ w with host := h } : World).readLine =
      (w.readLine.1, { w.readLine.2 with host := h }) := by
  unfold World.readLine World.answer
  cases w.taken.contains 10 with
  | true => exact nextLine_withHost h w
  | false =>
    cases w.refusals.head?.join with
    | none => exact nextLine_withHost h { w with refusals := w.refusals.tail }
    | some refusal => rfl

private theorem worldWrite_withHost (w : World) (channel : Channel) (text : String) :
    ({ w with host := h } : World).write channel text =
      ((w.write channel text).1, { (w.write channel text).2 with host := h }) := by
  unfold World.write World.answer
  cases channel <;> cases w.refusals.head?.join <;> rfl

private theorem write_withHost (channel : Channel) (text : String) :
    (m.withHost h).write channel text = (m.write channel text).withHost h := by
  have tried : (m.withHost h).world.write channel text =
      ((m.world.write channel text).1, { (m.world.write channel text).2 with host := h }) :=
    worldWrite_withHost h m.world channel text
  simp only [write, tried]
  cases m.world.write channel text with
  | mk refusal world => cases refusal <;> rfl

private theorem readInput_withHost : (m.withHost h).readInput = m.readInput.withHost h := by
  have read : (m.withHost h).world.readLine = (m.world.readLine.1, { m.world.readLine.2 with host := h }) :=
    readLine_withHost h m.world
  simp only [readInput, read]
  cases m.world.readLine with
  | mk line world => cases line <;> rfl

private theorem afterCall_withHost (line : Int) (r : CallResult) :
    (m.withHost h).afterCall s line { r with host := h } = (m.afterCall s line r).withHost h := by
  have warned := warnAll_withHost s h
    { m with stack := r.stack, random := r.random, world := { m.world with host := r.host } } line r.warnings
  simp only [afterCall, Executed.withHost]
  exact congrArg (Executed.mk · _) warned

/-- A sandboxed call of a builtin is refused or does not look at the host. -/
theorem callBuiltin_withHost (sandboxed : s.sandboxed = true) (i : Instruction) :
    (m.withHost h).callBuiltin s i = (m.callBuiltin s i).withHost h := by
  cases found : Builtin.entry? i.operand0 with
  | none =>
    rw [callBuiltin_missing s i m found, callBuiltin_missing s i _ found]
    rfl
  | some entry =>
    obtain ⟨name, b⟩ := entry
    cases refused : s.sandboxed && b.isSandboxed with
    | true =>
      rw [callBuiltin_refused s i m found refused, callBuiltin_refused s i _ found refused]
      rfl
    | false =>
      have free : b.isSandboxed = false := by
        rwa [sandboxed, Bool.true_and] at refused
      rw [callBuiltin_admitted s i m found refused, callBuiltin_admitted s i _ found refused,
        ← afterCall_withHost, ← Builtin.call_host free]
      rfl

/-- The verbs of the shell are refused, and the others do not look at the host. -/
theorem runVerb_withHost (sandboxed : s.sandboxed = true) (line : Int) (name : String) (verb : Verb)
    (arguments : List Value) :
    (m.withHost h).runVerb s line name verb arguments = (m.runVerb s line name verb arguments).withHost h := by
  cases verb with
  | print | stdout | stderr | clear => exact m.write_withHost h _ _
  | stdin => exact m.readInput_withHost h
  | shell shell =>
    simp only [runVerb, sandboxed, ↓reduceIte]
    rfl
  | _ => rfl

private theorem runCommand_withHost (sandboxed : s.sandboxed = true) (line : Int) :
    (m.withHost h).runCommand s line = (m.runCommand s line).withHost h := by
  cases named : Verb.ofName? m.commandName with
  | none =>
    rw [runCommand_unknown s m line named, runCommand_unknown s (m.withHost h) line named]
    rfl
  | some verb =>
    rw [runCommand_known s m line named, runCommand_known s (m.withHost h) line named,
      ← runVerb_withHost s h _ sandboxed]
    rfl

private theorem insertVariable_withHost (i : Instruction) :
    (m.withHost h).insertVariable s i = (m.insertVariable s i).withHost h := by
  simp only [insertVariable, withHost_stack, withHost_vars]
  cases m.vars.insertInto m.stack.below.below.peek.text m.stack.below.peek m.stack.peek with
  | ok vars => rfl
  | error e => exact congrArg Executed.ok (warn_withHost s h { m with stack := m.stack.below.below.below } _ _)

private theorem leave_withHost (i : Instruction) :
    (m.withHost h).leave s i = (m.leave s i).withHost h := by
  simp only [leave, withHost_frames, withHost_stack]
  cases m.frames with
  | nil => exact congrArg Executed.ok (warn_withHost s h m _ _)
  | cons f frames => cases keep : keepsValue s f <;> simp only [keep, Bool.false_eq_true, ↓reduceIte] <;> rfl

/-- A sandboxed instruction behaves alike with every host. -/
theorem execute_withHost (sandboxed : s.sandboxed = true) (op : Opcode) (i : Instruction) :
    (m.withHost h).execute s op i = (m.execute s op i).withHost h := by
  cases op with
  | call => exact m.callBuiltin_withHost s h sandboxed i
  | runCommand => exact m.runCommand_withHost s h sandboxed i.line
  | popGotoIndex => exact m.leave_withHost s h i
  | variableInsert => exact m.insertVariable_withHost s h i
  | set | get | deleteVar =>
    simp only [execute, withName]
    cases s.program.constant? i.operand0 <;> rfl
  | push =>
    simp only [execute]
    cases s.program.constant? i.operand0 <;> rfl
  | destructure =>
    simp only [execute, Machine.destructure]
    cases s.program.constant? i.operand0 <;> rfl
  | copy =>
    have same : (m.withHost h).peekOperand? i.operand0 = m.peekOperand? i.operand0 := rfl
    simp only [execute, same]
    cases m.peekOperand? i.operand0 <;> rfl
  | swap =>
    simp only [execute, withHost_stack]
    cases m.stack.swap? <;> rfl
  | getCacheElseJump =>
    have same : (m.withHost h).cache.get? i.operand0 (m.withHost h).cacheKey =
        m.cache.get? i.operand0 m.cacheKey := rfl
    simp only [execute, same]
    cases m.cache.get? i.operand0 m.cacheKey <;> rfl
  | _ => rfl

end Effects

section Runs

variable {s : Settings}

private theorem recover_withHost (h : Host) (m : Machine) (f : Fault) (line : Int) :
    (m.withHost h).recover s f line = (m.recover s f line).withHost h := by
  simp only [recover, withHost_handlers]
  split_ifs
  · rfl
  · cases m.handlers <;> rfl

/-- A sandboxed step takes the same way with every host. -/
theorem step_withHost (sandboxed : s.sandboxed = true) (h : Host) (m : Machine) :
    (m.withHost h).step s = (m.step s).withHost h := by
  obtain ⟨fetched, ended⟩ | ⟨i, fetched, decoded, failed⟩ | ⟨op, i, left, target, executing, ran, went⟩ |
    ⟨i, f, left, ⟨op, executing, ran⟩, recovered⟩ := step_cases s m
  · rw [ended]
    exact step_of_end fetched
  · rw [failed]
    exact step_of_undecoded fetched decoded
  · have moved : (m.withHost h).Executing s op i := ⟨executing.fetched, executing.decoded⟩
    have same := execute_withHost s h m sandboxed op i
    rw [ran] at same
    rw [went, moved.step_ok same]
    rfl
  · have moved : (m.withHost h).Executing s op i := ⟨executing.fetched, executing.decoded⟩
    have same := execute_withHost s h m sandboxed op i
    rw [ran] at same
    have raises : (m.withHost h).Raises s i f (left.withHost h) := ⟨op, moved, same⟩
    rw [recovered, raises.step, recover_withHost]

private theorem run_withHost (sandboxed : s.sandboxed = true) (h : Host) (m : Machine) (n : Nat) :
    (m.withHost h).run s n = (m.run s n).withHost h := by
  induction n generalizing m with
  | zero => rfl
  | succ n ih =>
    rw [run_succ, run_succ, step_withHost sandboxed h m]
    cases m.step s with
    | running next => exact ih next
    | finished _ => rfl
    | failed _ _ => rfl

/-- The verbs that run a command line. -/
theorem ofName?_eq_shell_iff {name : String} :
    (∃ verb, Verb.ofName? name = some (.shell verb)) ↔ name ∈ ["!", "?", "?!", "="] := by
  constructor
  · rintro ⟨verb, named⟩
    unfold Verb.ofName? at named
    split at named <;> simp_all
  · intro member
    simp only [List.mem_cons, List.not_mem_nil, or_false] at member
    obtain rfl | rfl | rfl | rfl := member
    · exact ⟨.succeeds, rfl⟩
    · exact ⟨.output, rfl⟩
    · exact ⟨.errors, rfl⟩
    · exact ⟨.code, rfl⟩

private theorem Executing.refused_call {m : Machine} {i : Instruction} {name : String} {b : Builtin}
    (sandboxed : s.sandboxed = true) (calls : m.Executing s .call i)
    (found : Builtin.entry? i.operand0 = some (name, b)) (touches : b.TouchesHost) :
    m.Raises s i (.sandboxViolation name) m := by
  have refused : (s.sandboxed && b.isSandboxed) = true := by
    rw [sandboxed, Builtin.touchesHost_iff.mp touches]
    rfl
  exact ⟨.call, calls, callBuiltin_refused s i m found refused⟩

private theorem Executing.refused_shell {m : Machine} {i : Instruction}
    (sandboxed : s.sandboxed = true)
    (runs : m.Executing s .runCommand i) (shell : m.commandName ∈ ["!", "?", "?!", "="]) :
    m.Raises s i (.sandboxViolation ("shell command '" ++ m.commandName ++ "'"))
      { m with stack := m.stack.below } := by
  obtain ⟨verb, named⟩ := ofName?_eq_shell_iff.mpr shell
  refine ⟨.runCommand, runs, ?_⟩
  simp only [execute, runCommand_known s m i.line named, runVerb, sandboxed, ↓reduceIte]

/-- A sandboxed run is isolated from its host. In worlds that differ in the host only it goes through
the same states, which keep their own host, and has the same ending. Where it comes to a builtin
that touches the host or to a command line, it ends with a refusal, whatever handlers are active. -/
theorem sandbox_isolates (sandboxed : s.sandboxed = true) (arguments : List String) (seed : UInt64)
    (world : World) (h₁ h₂ : Host) (n : Nat) :
    let start := fun h => Machine.start s.program arguments seed { world with host := h }
    (start h₂).run s n = ((start h₁).run s n).withHost h₂ ∧
    ((start h₁).run s n).machine.world.host = h₁ ∧
    (∀ state i name b, (start h₁).run s n = .running state → state.Executing s .call i →
      Builtin.entry? i.operand0 = some (name, b) → b.TouchesHost →
        (start h₁).run s (n + 1) = .failed state (.sandboxViolation name)) ∧
    ∀ state i, (start h₁).run s n = .running state → state.Executing s .runCommand i →
      state.commandName ∈ ["!", "?", "?!", "="] →
        (start h₁).run s (n + 1) = .failed { state with stack := state.stack.below }
          (.sandboxViolation ("shell command '" ++ state.commandName ++ "'")) := by
  intro start
  refine ⟨run_withHost sandboxed h₂ (start h₁) n, ?_, ?_, ?_⟩
  · have same : (start h₁).run s n = ((start h₁).run s n).withHost h₁ :=
      run_withHost sandboxed h₁ (start h₁) n
    rw [same]
    cases (start h₁).run s n <;> rfl
  · intro state i name b reached calls found touches
    rw [run_add_one, reached]
    exact (calls.refused_call sandboxed found touches).step_fatal rfl
  · intro state i reached runs shell
    rw [run_add_one, reached]
    exact (runs.refused_shell sandboxed shell).step_fatal rfl

/-- Under a handler, a program asks for a variable of the environment. -/
private def asking : Settings where
  program := { instructions := #[⟨17, 0, 0, 1⟩, ⟨1, 135, 0, 2⟩] }
  sandboxed := true

private def askingIn (h : Host) : Machine := Machine.start asking.program [] 0 { idle.world with host := h }

theorem sandbox_isolates_asking :
    (askingIn SystemCall.furnished).run asking 1 =
      ((askingIn SystemCall.bare).run asking 1).withHost SystemCall.furnished ∧
    ((askingIn SystemCall.bare).run asking 1).machine.handlers.length = 1 ∧
    (askingIn SystemCall.bare).run asking 2 =
      .failed ((askingIn SystemCall.bare).run asking 1).machine (.sandboxViolation "env_get") := by
  obtain ⟨same, _, refused, _⟩ := sandbox_isolates (show asking.sandboxed = true from rfl) [] 0 idle.world
    SystemCall.bare SystemCall.furnished 1
  have calls : ((askingIn SystemCall.bare).run asking 1).machine.Executing asking .call ⟨1, 135, 0, 2⟩ := ⟨rfl, rfl⟩
  have found : Builtin.entry? 135 = some ("env_get", .system .envGet) := by decide +kernel
  exact ⟨same, rfl, refused _ _ _ _ rfl calls found (Builtin.touchesHost_iff.mpr rfl)⟩

end Runs

end Machine

end StackVM
