import StackVM.Proofs.Machine.Segment

/-! # How runs end

An instruction raises a catchable fault, or one of three that cannot be caught. A catchable one ends
a run only if no handler is active, and then as an uncaught error with the wording of the fault and
the line of the instruction. So the endings of a run are few, and each tells what happened last.
-/

namespace StackVM

/-- A fault of an instruction that no handler catches. -/
inductive Fault.Fatal : Fault → Prop
  | constant (index : Int) : Fatal (.invalidConstant index)
  | builtin (index : Int) : Fatal (.invalidBuiltin index)
  | refused (operation : String) : Fatal (.sandboxViolation operation)

namespace Machine

variable {s : Settings} {m final left : Machine} {i : Instruction} {f : Fault}

private theorem callBuiltin_fault (failed : m.callBuiltin s i = .fail left f) :
    f.isCatchable = true ∨ f.Fatal := by
  cases found : Builtin.entry? i.operand0 with
  | none =>
    rw [callBuiltin_missing s i m found] at failed
    cases failed
    exact .inr (.builtin _)
  | some entry =>
    obtain ⟨name, b⟩ := entry
    cases refused : s.sandboxed && b.isSandboxed with
    | true =>
      rw [callBuiltin_refused s i m found refused] at failed
      cases failed
      exact .inr (.refused name)
    | false =>
      rw [callBuiltin_admitted s i m found refused] at failed
      have outcome := congrArg Executed.outcome failed
      simp only [afterCall, Executed.fail] at outcome
      split at outcome
      · next g raised =>
        cases outcome
        obtain ⟨_, ⟨message, rfl⟩, _⟩ := Builtin.call_failed raised
        exact .inl rfl
      · cases outcome

private theorem runCommand_fault {line : Int} (failed : m.runCommand s line = .fail left f) :
    f.isCatchable = true ∨ f.Fatal := by
  obtain ⟨_, result⟩ | ⟨verb, _, effect⟩ := m.runCommand_cases s line
  · rw [result] at failed
    cases failed
    exact .inl rfl
  · rw [failed] at effect
    cases effect with
    | raised _ text => exact .inl rfl
    | refused _ operation => exact .inr (.refused operation)
    | failed _ world message => exact .inl rfl

private theorem withName_fault {use : String → Executed}
    (succeeds : ∀ name, ∃ after, use name = .ok after)
    (failed : m.withName s i use = .fail left f) : f.Fatal := by
  obtain missing | ⟨v, _, present⟩ := m.withName_cases s i use
  · rw [missing] at failed
    cases failed
    exact .constant _
  · obtain ⟨after, succeeded⟩ := succeeds v.text
    rw [present, succeeded] at failed
    cases failed

/-- The faults that an instruction can raise. -/
theorem Raises.fault (raises : m.Raises s i f left) : f.isCatchable = true ∨ f.Fatal := by
  obtain ⟨op, _, failed⟩ := raises
  cases op with
  | call => exact callBuiltin_fault failed
  | runCommand => exact runCommand_fault failed
  | set | get | deleteVar =>
    simp only [execute] at failed
    exact .inr (withName_fault (fun _ => ⟨_, rfl⟩) failed)
  | push | destructure =>
    simp only [execute, Machine.destructure] at failed
    split at failed
    · cases failed
    · cases failed
      exact .inr (.constant _)
  | copy | swap =>
    simp only [execute] at failed
    split at failed
    · cases failed
    · cases failed
      exact .inl rfl
  | popGotoIndex =>
    simp only [execute, leave] at failed
    split at failed <;> cases failed
  | getCacheElseJump =>
    simp only [execute] at failed
    split at failed <;> cases failed
  | variableInsert =>
    simp only [execute, insertVariable] at failed
    split at failed <;> cases failed
  | _ => cases failed

end Machine

end StackVM
