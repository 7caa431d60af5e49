import StackVM.Proofs.Machine.Segment

/-! # What a failed instruction leaves behind

A handler sees the state that the failing instruction has left. Every operation looks up what it
needs before it changes anything, with few exceptions: commands, `json_decode` and the taking apart
of a value have already taken the top off the stack, and the command that raises an error has
cleared the last result. A command that reads, writes or starts another process may have used the
world before it fails. Everything else is as it was before the instruction.
-/

namespace StackVM

/-- The codes from one to twenty are those of the operations. -/
theorem Opcode.exists_ofCode? {code : UInt8} (wire : 1 ≤ code ∧ code ≤ 20) :
    ∃ op, ofCode? code = some op := by
  obtain ⟨low, high⟩ := wire
  rw [UInt8.le_iff_toNat_le] at low high
  have present : code ≠ 0 := by
    rintro rfl
    contradiction
  have bound : code.toNat - 1 < all.length := by
    change code.toNat - 1 < 20
    change code.toNat ≤ 20 at high
    omega
  exact ⟨all[code.toNat - 1], by rw [ofCode?, if_neg present, List.getElem?_eq_getElem bound]⟩

/-- The catalog has one name for the reader of JSON. -/
theorem Builtin.name_of_jsonDecode {number : Int} {name : String}
    (found : entry? number = some (name, .jsonDecode)) : name = "json_decode" := by
  have named : ∀ entry ∈ catalog, entry.2 = .jsonDecode → entry.1 = "json_decode" := by
    decide +kernel
  unfold entry? at found
  split_ifs at found
  exact named _ (Array.mem_of_getElem? found) rfl

private theorem Verb.ofName?_eq_error {name : String} (named : Verb.ofName? name = some .error) :
    name = "error" := by
  unfold Verb.ofName? at named
  split at named <;> first | rfl | cases named

namespace Machine

variable {s : Settings} {m : Machine} {i : Instruction} {f : Fault}

private theorem callBuiltin_failed (failed : (m.callBuiltin s i).outcome = .error f) :
    m.callBuiltin s i = .fail { m with
      stack := if Builtin.entry? i.operand0 = some ("json_decode", .jsonDecode)
        then m.stack.below else m.stack } f := by
  cases found : Builtin.entry? i.operand0 with
  | none =>
    rw [callBuiltin_missing s i m found] at failed ⊢
    cases failed
    rfl
  | some entry =>
    obtain ⟨name, b⟩ := entry
    cases refused : s.sandboxed && b.isSandboxed with
    | true =>
      have other : ¬ some (name, b) = some ("json_decode", .jsonDecode) := by
        rintro same
        cases same
        simp [Builtin.isSandboxed] at refused
      rw [callBuiltin_refused s i m found refused] at failed ⊢
      cases failed
      rw [if_neg other]
    | false =>
      rw [callBuiltin_admitted s i m found refused] at failed ⊢
      simp only [afterCall] at failed
      split at failed
      · next g raised =>
        cases failed
        obtain ⟨rfl, _, result⟩ := Builtin.call_failed raised
        rw [result, Builtin.name_of_jsonDecode found, if_pos rfl]
        rfl
      · cases failed

private theorem runCommand_failed {line : Int} (failed : (m.runCommand s line).outcome = .error f) :
    ∃ world, (world = m.world ∨ (Verb.ofName? m.commandName).any Verb.isExternal = true) ∧
      m.runCommand s line = .fail { m with
        stack := m.stack.below
        last := if m.commandName = "error" then .null else m.last
        world } f := by
  -- The name of the verb tells whether it is the one that clears the last result.
  have other (verb : Option Verb) (named : Verb.ofName? m.commandName = verb)
      (different : verb ≠ some .error) : m.commandName ≠ "error" := by
    rintro called
    rw [called] at named
    exact different named.symm
  obtain ⟨unnamed, result⟩ | ⟨verb, named, effect⟩ := m.runCommand_cases s line
  · rw [result] at failed ⊢
    cases failed
    exact ⟨m.world, .inl rfl, by rw [if_neg (other none unnamed (by simp))]⟩
  · rw [named]
    generalize m.runCommand s line = result at failed effect ⊢
    cases effect with
    | done => cases failed
    | raised error text =>
      cases failed
      rw [error] at named
      exact ⟨m.world, .inl rfl, by rw [if_pos (Verb.ofName?_eq_error named)]⟩
    | refused external operation =>
      cases failed
      exact ⟨m.world, .inl rfl, by rw [if_neg (other verb named (by rintro ⟨⟩; cases external))]⟩
    | failed external world message =>
      cases failed
      exact ⟨world, .inr external, by rw [if_neg (other verb named (by rintro ⟨⟩; cases external))]⟩

private theorem withName_failed {use : String → Executed}
    (succeeds : ∀ name, ∃ after, use name = .ok after)
    (failed : (m.withName s i use).outcome = .error f) : m.withName s i use = .fail m f := by
  obtain missing | ⟨v, _, present⟩ := m.withName_cases s i use
  · rw [missing] at failed ⊢
    cases failed
    rfl
  · obtain ⟨after, succeeded⟩ := succeeds v.text
    rw [present, succeeded] at failed
    cases failed

private theorem destructure_failed (failed : (m.destructure s i).outcome = .error f) :
    f = .invalidConstant i.operand0 ∧
      m.destructure s i = .fail { m with stack := m.stack.below } f := by
  unfold destructure at failed ⊢
  cases found : s.program.constant? i.operand0 with
  | none =>
    rw [found] at failed
    cases failed
    exact ⟨rfl, rfl⟩
  | some names =>
    rw [found] at failed
    cases failed

/-- The state that an instruction leaves when it fails. -/
theorem execute_failed {op : Opcode} (failed : (m.execute s op i).outcome = .error f) :
    ∃ world, (world = m.world ∨
        op = .runCommand ∧ (Verb.ofName? m.commandName).any Verb.isExternal = true) ∧
      m.execute s op i = .fail { m with
        stack := if op = .runCommand ∨ op = .destructure ∨
            op = .call ∧ Builtin.entry? i.operand0 = some ("json_decode", .jsonDecode)
          then m.stack.below else m.stack
        last := if op = .runCommand ∧ m.commandName = "error" then .null else m.last
        world } f := by
  cases op with
  | runCommand =>
    simp only [execute] at failed ⊢
    simpa using runCommand_failed failed
  | call =>
    refine ⟨m.world, .inl rfl, ?_⟩
    simp only [execute] at failed ⊢
    simpa using callBuiltin_failed failed
  | destructure =>
    refine ⟨m.world, .inl rfl, ?_⟩
    simp only [execute] at failed ⊢
    simpa using (destructure_failed failed).2
  | set | get | deleteVar =>
    refine ⟨m.world, .inl rfl, ?_⟩
    simp only [execute] at failed ⊢
    simpa using withName_failed (fun _ => ⟨_, rfl⟩) failed
  | push | copy | swap =>
    refine ⟨m.world, .inl rfl, ?_⟩
    simp only [execute] at failed ⊢
    split at failed
    · cases failed
    · cases failed
      simp [*]
  | popGotoIndex =>
    simp only [execute, leave] at failed
    split at failed <;> cases failed
  | getCacheElseJump =>
    simp only [execute] at failed
    split at failed <;> cases failed
  | variableInsert =>
    simp only [execute, insertVariable] at failed
    split at failed <;> cases failed
  | _ => cases failed

/-- An instruction that fails keeps the state of the machine, and it has no place to go on. It has
taken the top off the stack if it is a command, a call of `json_decode` or has not found the names
of the variables to set; the command `error` has cleared the last result. The world is another one
only after a command that reads, writes or starts a process. -/
theorem failed_instruction_keeps (s : Settings) (m : Machine) (i : Instruction)
    (wire : 1 ≤ i.opcode ∧ i.opcode ≤ 20) :
    ∃ op, Opcode.ofCode? i.opcode = some op ∧ ∀ f, (m.execute s op i).outcome = .error f →
      (op = .destructure → f = .invalidConstant i.operand0) ∧
      ∃ world, (world = m.world ∨
          op = .runCommand ∧ (Verb.ofName? m.commandName).any Verb.isExternal = true) ∧
        m.execute s op i = .fail { m with
          stack := if op = .runCommand ∨ op = .destructure ∨
              op = .call ∧ Builtin.entry? i.operand0 = some ("json_decode", .jsonDecode)
            then m.stack.below else m.stack
          last := if op = .runCommand ∧ m.commandName = "error" then .null else m.last
          world } f := by
  obtain ⟨op, decoded⟩ := Opcode.exists_ofCode? wire
  refine ⟨op, decoded, ?_⟩
  intro f failed
  refine ⟨?_, execute_failed failed⟩
  rintro rfl
  exact (destructure_failed failed).1

/-- A command that prints to a full device, of which one byte passes. -/
private def printing : Machine :=
  { idle with
    stack := [.arr [.str "print", .str "no"], .bool true]
    last := .bool false
    world := { idle.world with refusals := [some { message := "No space left on device", passed := 1 }] } }

/-- The machine keeps all but its words, and the byte is in the output. -/
theorem failed_instruction_keeps_printing :
    (printing.execute { program := {} } .runCommand ⟨6, 0, 0, 1⟩).outcome =
      .error (.io "No space left on device") ∧
    ∃ world, world.output = Text.utf8 "n" ∧
      printing.execute { program := {} } .runCommand ⟨6, 0, 0, 1⟩ =
        .fail { printing with stack := [.bool true], world } (.io "No space left on device") := by
  obtain ⟨op, decoded, keeps⟩ :=
    failed_instruction_keeps { program := {} } printing ⟨6, 0, 0, 1⟩ (by decide)
  cases decoded
  have failed : (printing.execute { program := {} } .runCommand ⟨6, 0, 0, 1⟩).outcome =
      .error (.io "No space left on device") := by rfl
  obtain ⟨_, world, _, kept⟩ := keeps _ failed
  refine ⟨failed, world, ?_, kept⟩
  have written := congrArg (·.machine.world.output) kept
  exact written.symm.trans (by decide)

end Machine

end StackVM
