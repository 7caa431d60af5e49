import Mathlib.Algebra.Order.BigOperators.Group.List
import Mathlib.Algebra.Order.Ring.Nat
import StackVM.Proofs.Machine.Segment

/-! # Programs that only go forward halt

The places at which a run may still go on are the instruction pointer, the return points of the
active subroutines and the targets of the active handlers. If every jump and every handler is
written to lead forward, a step takes the current place away and puts in at most two later ones. A
place is weighed so that it outweighs any two later ones; then the weight of all places together
falls with every step, and it bounds the length of the run.
-/

namespace StackVM

/-- The transfer of control that is written in the instruction at an index leads forward. Jumps are
written as the index before their target. -/
def Instruction.goesForward (i : Instruction) (index : Nat) : Bool :=
  match Opcode.ofCode? i.opcode with
  | some .call =>
    match Builtin.entry? i.operand0 with
    | some (_, .operator .jump) => 0 < i.operand1 && index ≤ i.operand1
    | some (_, .operator .jumpIfNil) | some (_, .operator .jumpIfFalse) => index ≤ i.operand1
    | _ => true
  | some .getCacheElseJump => index < i.operand1
  | some .pushCatch => index < i.operand0
  | _ => true

namespace Program

/-- Every transfer of control that is written in the program leads forward. -/
def Forward (p : Program) : Prop :=
  ∀ (index : Nat) (i : Instruction), p.instructions[index]? = some i → i.goesForward index = true

instance (p : Program) : Decidable p.Forward :=
  decidable_of_iff (∀ index : Fin p.instructions.size, p.instructions[index].goesForward index = true) <| by
    simp only [Forward, Array.getElem?_eq_some_iff]
    constructor
    · rintro written index i ⟨inside, rfl⟩
      exact written ⟨index, inside⟩
    · intro written index
      exact written index _ ⟨index.isLt, rfl⟩

/-- The instructions can be counted with a signed 64-bit integer, as those of every list in memory
can. -/
def Countable (p : Program) : Prop := p.instructions.size ≤ Number.maxInt64

end Program

/-- A jump goes on behind its operand. -/
theorem Operators.lt_resumeAt {index : Nat} {operand : Int} (bounded : index < Number.maxInt64)
    (ahead : index ≤ operand) : index < resumeAt operand := by
  unfold resumeAt saturate
  unfold Number.minInt64 Number.maxInt64 at *
  omega

/-- Only three builtins jump; two of them go where their instruction says, and so does the third
unless its operand is zero. -/
theorem Builtin.call_jump {b : Builtin} {arg line : Int} {vars : Variables} {clock : Clock}
    {stack : Stack} {random : Random} {host : Host} {target : Nat}
    (jumps : (b.call arg line vars clock stack random host).jump = some target) :
    (b = .operator .jump ∧ (arg ≠ 0 → target = Operators.resumeAt arg)) ∨
      ((b = .operator .jumpIfNil ∨ b = .operator .jumpIfFalse) ∧ target = Operators.resumeAt arg) := by
  cases b with
  | operator op =>
    cases op with
    | jump =>
      refine .inl ⟨rfl, ?_⟩
      intro written
      simp only [call, Operator.apply, if_pos written] at jumps
      exact (Option.some.inj jumps).symm
    | jumpIfNil =>
      simp only [call, Operator.apply] at jumps
      split_ifs at jumps
      exact .inr ⟨.inl rfl, (Option.some.inj jumps).symm⟩
    | jumpIfFalse =>
      simp only [call, Operator.apply] at jumps
      split_ifs at jumps
      exact .inr ⟨.inr rfl, (Option.some.inj jumps).symm⟩
    | _ => cases jumps
  | jsonDecode =>
    simp only [call] at jumps
    split at jumps <;> cases jumps
  | _ => cases jumps

namespace Machine

variable {s : Settings} {m next left : Machine} {op : Opcode} {i : Instruction} {target : Option Nat}

private theorem Executing.index_lt (executing : m.Executing s op i) :
    m.ip < s.program.instructions.size :=
  (Array.getElem?_eq_some_iff.mp executing.fetched).1

/-- A builtin of a forward program leads forward. -/
theorem callBuiltin_forward (forward : s.program.Forward) (countable : s.program.Countable)
    (executing : m.Executing s .call i) (ran : m.callBuiltin s i = ⟨left, .ok target⟩) :
    m.ip < target.getD (m.ip + 1) := by
  have ahead := forward m.ip i executing.fetched
  have bounded : m.ip < Number.maxInt64 :=
    lt_of_lt_of_le (Int.ofNat_lt.mpr executing.index_lt) countable
  simp only [Instruction.goesForward, executing.decoded] at ahead
  cases found : Builtin.entry? i.operand0 with
  | none =>
    rw [callBuiltin_missing s i m found] at ran
    cases ran
  | some entry =>
    obtain ⟨name, b⟩ := entry
    rw [found] at ahead
    cases refused : s.sandboxed && b.isSandboxed with
    | true =>
      rw [callBuiltin_refused s i m found refused] at ran
      cases ran
    | false =>
      rw [callBuiltin_admitted s i m found refused] at ran
      have outcome := congrArg Executed.outcome ran
      simp only [afterCall] at outcome
      split at outcome
      · cases outcome
      · cases outcome
        cases jumps : (b.call i.operand1 i.line m.vars m.world.clock m.stack m.random m.world.host).jump with
        | none => exact Nat.lt_succ_self _
        | some place =>
          obtain ⟨rfl, written⟩ | ⟨rfl | rfl, rfl⟩ := Builtin.call_jump jumps
          · simp only [Bool.and_eq_true, decide_eq_true_eq] at ahead
            rw [written ahead.1.ne']
            exact Operators.lt_resumeAt bounded ahead.2
          · exact Operators.lt_resumeAt bounded (of_decide_eq_true ahead)
          · exact Operators.lt_resumeAt bounded (of_decide_eq_true ahead)

/-- A command has no place of its own to go on. -/
theorem runCommand_target {line : Int} (ran : (m.runCommand s line).outcome = .ok target) :
    target = none := by
  obtain ⟨_, result⟩ | ⟨verb, _, effect⟩ := m.runCommand_cases s line
  · rw [result] at ran
    cases ran
  · generalize m.runCommand s line = result at ran effect
    cases effect with
    | done =>
      cases ran
      rfl
    | _ => cases ran

private theorem withName_target {use : String → Executed}
    (succeeds : ∀ name, ∃ after, use name = .ok after)
    (ran : (m.withName s i use).outcome = .ok target) : target = none := by
  obtain missing | ⟨v, _, present⟩ := m.withName_cases s i use
  · rw [missing] at ran
    cases ran
  · obtain ⟨after, succeeded⟩ := succeeds v.text
    rw [present, succeeded] at ran
    cases ran
    rfl

/-- An instruction of a forward program that does not return from a subroutine leads forward. -/
theorem execute_forward (forward : s.program.Forward) (countable : s.program.Countable)
    (executing : m.Executing s op i) (stays : op ≠ .popGotoIndex)
    (ran : m.execute s op i = ⟨left, .ok target⟩) : m.ip < target.getD (m.ip + 1) := by
  have next : target = none → m.ip < target.getD (m.ip + 1) := by
    rintro rfl
    exact Nat.lt_succ_self _
  have outcome := congrArg Executed.outcome ran
  cases op with
  | call => exact callBuiltin_forward forward countable executing ran
  | popGotoIndex => exact absurd rfl stays
  | runCommand => exact next (runCommand_target outcome)
  | set | get | deleteVar => exact next (withName_target (fun _ => ⟨_, rfl⟩) outcome)
  | getCacheElseJump =>
    have ahead := forward m.ip i executing.fetched
    simp only [Instruction.goesForward, executing.decoded, decide_eq_true_eq] at ahead
    simp only [execute] at outcome
    split at outcome
    · cases outcome
      exact Nat.lt_succ_self _
    · cases outcome
      exact Int.lt_toNat.mpr ahead
  | push | copy | swap | variableInsert | destructure =>
    simp only [execute, insertVariable, Machine.destructure] at outcome
    split at outcome <;> cases outcome <;> exact Nat.lt_succ_self _
  | _ =>
    cases outcome
    exact Nat.lt_succ_self _

/-- The places at which a run may still go on. -/
def places (m : Machine) : List Nat :=
  m.ip :: (m.frames.map (·.returnIndex + 1) ++ m.handlers.map (·.target))

/-- The weight of a place in a program of the given size: more than that of any two later places
within the program. -/
def placeWeight (size place : Nat) : Nat := 3 ^ (size - place)

/-- The weight of all places at which a run may still go on. -/
def weight (s : Settings) (m : Machine) : Nat :=
  (m.places.map (placeWeight s.program.instructions.size)).sum

section Weight

variable {size place later : Nat}

theorem placeWeight_pos : 0 < placeWeight size place := Nat.pow_pos (by decide)

/-- A place within the program outweighs the next one together with any later one. -/
theorem placeWeight_succ_add_lt (inside : place < size) (ahead : place < later) :
    placeWeight size (place + 1) + placeWeight size later < placeWeight size place := by
  have light : placeWeight size later ≤ placeWeight size (place + 1) :=
    Nat.pow_le_pow_right (by decide) (by omega)
  have split : placeWeight size place = placeWeight size (place + 1) * 3 := by
    unfold placeWeight
    rw [← Nat.pow_succ]
    congr 1
    omega
  have positive : 0 < placeWeight size (place + 1) := placeWeight_pos
  omega

private theorem placeWeight_lt (inside : place < size) (ahead : place < later) :
    placeWeight size later < placeWeight size place := by
  have heavy := placeWeight_succ_add_lt inside ahead
  omega

end Weight

/-- The weight is that of the current place, the return points and the targets of handlers. -/
theorem weight_eq (s : Settings) (m : Machine) : m.weight s =
    placeWeight s.program.instructions.size m.ip +
      ((m.frames.map fun f => placeWeight s.program.instructions.size (f.returnIndex + 1)).sum +
        (m.handlers.map fun h => placeWeight s.program.instructions.size h.target).sum) := by
  simp [weight, places, Function.comp_def]

private theorem sum_map_le_of_suffix {α : Type} {cut whole : List α} (outer : cut <:+ whole)
    (f : α → Nat) :
    (cut.map f).sum ≤ (whole.map f).sum :=
  (outer.sublist.map f).sum_le_sum (by simp)

/-- A completed instruction lowers the weight. -/
theorem weight_completed (forward : s.program.Forward) (countable : s.program.Countable)
    (executing : m.Executing s op i) (ran : m.execute s op i = ⟨left, .ok target⟩) :
    weight s { left with ip := target.getD (m.ip + 1) } < m.weight s := by
  obtain ⟨_, frames, handlers⟩ := m.execute_control s i op
  rw [ran] at frames handlers
  simp only at frames handlers
  have inside := executing.index_lt
  rw [weight_eq, weight_eq]
  simp only [frames, handlers]
  cases op with
  | pushIndex =>
    cases congrArg Executed.outcome ran
    simp only [framesAfter, handlersAfter, List.map_cons, List.sum_cons, Option.getD_none]
    have heavy := placeWeight_succ_add_lt inside (show m.ip < (m.frameFor i).returnIndex + 1 by
      simp only [frameFor]; omega)
    omega
  | pushCatch =>
    cases congrArg Executed.outcome ran
    have ahead := forward m.ip i executing.fetched
    simp only [Instruction.goesForward, executing.decoded, decide_eq_true_eq] at ahead
    simp only [framesAfter, handlersAfter, List.map_cons, List.sum_cons, Option.getD_none]
    have heavy := placeWeight_succ_add_lt inside (show m.ip < (m.handlerFor i).target from
      Int.lt_toNat.mpr ahead)
    omega
  | popGotoIndex =>
    simp only [execute, leave] at ran
    cases active : m.frames with
    | nil =>
      rw [active] at ran
      cases congrArg Executed.outcome ran
      simp only [framesAfter, handlersAfter, active, Option.getD_none]
      have lighter := placeWeight_lt inside (Nat.lt_succ_self m.ip)
      simpa using lighter
    | cons f outer =>
      rw [active] at ran
      cases congrArg Executed.outcome ran
      simp only [framesAfter, handlersAfter, active, Option.getD_some, List.tail_cons, List.map_cons,
        List.sum_cons]
      have positive : 0 < placeWeight s.program.instructions.size m.ip := placeWeight_pos
      omega
  | popCatch =>
    have lighter := placeWeight_lt inside (execute_forward forward countable executing (by simp) ran)
    have fewer := sum_map_le_of_suffix (List.tail_suffix m.handlers) fun h =>
      placeWeight s.program.instructions.size h.target
    simp only [framesAfter, handlersAfter]
    omega
  | _ =>
    have lighter := placeWeight_lt inside (execute_forward forward countable executing (by simp) ran)
    simp only [framesAfter, handlersAfter]
    omega

/-- A throw lowers the weight: it goes on at a place that was pending. -/
theorem weight_thrown {f : Fault} {h : Handler} {outer : List Handler} (raises : m.Raises s i f left)
    (active : m.handlers = h :: outer) : (left.throwTo s h f.message i.line).weight s < m.weight s := by
  obtain ⟨_, frames, handlers⟩ := raises.control
  have fewer := sum_map_le_of_suffix (List.drop_suffix (m.frames.length - h.savedDepth) m.frames) fun f =>
    placeWeight s.program.instructions.size (f.returnIndex + 1)
  have positive : 0 < placeWeight s.program.instructions.size m.ip := placeWeight_pos
  rw [weight_eq, weight_eq]
  simp only [throwTo, frames, handlers, active, List.tail_cons, List.map_cons, List.sum_cons]
  omega

private theorem step_weight_lt (forward : s.program.Forward) (countable : s.program.Countable)
    (stepped : m.step s = .running next) : next.weight s < m.weight s := by
  obtain ⟨op, i, left, target, executing, ran, rfl⟩ | ⟨i, f, left, h, outer, raises, _, active, rfl⟩ :=
    step_running stepped
  · exact weight_completed forward countable executing ran
  · exact weight_thrown raises active

/-- Every step that goes on uses up some of the weight. -/
theorem run_weight_le (forward : s.program.Forward) (countable : s.program.Countable) {n : Nat}
    (reached : m.run s n = .running next) : next.weight s + n ≤ m.weight s := by
  induction n generalizing next with
  | zero =>
    cases reached
    exact Nat.le_refl _
  | succ n ih =>
    obtain ⟨before, earlier, stepped⟩ := run_last reached
    have falls := step_weight_lt forward countable stepped
    have bound := ih earlier
    omega

theorem weight_pos : 0 < m.weight s := by
  have positive : 0 < placeWeight s.program.instructions.size m.ip := placeWeight_pos
  rw [weight_eq]
  omega

/-- A run of a forward program has ended after as many steps as its first state weighs. -/
theorem run_weight_ended (forward : s.program.Forward) (countable : s.program.Countable) (m : Machine) :
    (∃ final, m.run s (m.weight s) = .finished final) ∨
      ∃ final f, m.run s (m.weight s) = .failed final f := by
  cases ended : m.run s (m.weight s) with
  | running state =>
    have bound := run_weight_le forward countable ended
    have positive : 0 < state.weight s := weight_pos
    omega
  | finished final => exact .inl ⟨final, rfl⟩
  | failed final f => exact .inr ⟨final, f, rfl⟩

/-- A program in which every jump and every handler is written to lead forward halts, whatever
subroutines it enters and faults it raises: the run ends, normally or with a fault, and the number
of its instructions bounds that of its steps. -/
theorem forward_program_halts (forward : s.program.Forward) (countable : s.program.Countable)
    (arguments : List String) (seed : UInt64) (world : World) :
    ∃ n ≤ 3 ^ s.program.instructions.size,
      (∃ final, (start s.program arguments seed world).run s n = .finished final) ∨
        ∃ final f, (start s.program arguments seed world).run s n = .failed final f := by
  have first : (start s.program arguments seed world).weight s = 3 ^ s.program.instructions.size := by
    simp [weight, places, placeWeight, start]
  refine ⟨_, Nat.le_refl _, ?_⟩
  rw [← first]
  exact run_weight_ended forward countable _

/-- In a subroutine a fault goes forward to its handler, which returns without a caller and jumps to
the end. -/
private def leaping : Settings where
  program := { instructions := #[⟨17, 3, 0, 1⟩, ⟨8, 0, 0, 2⟩, ⟨12, 0, 0, 3⟩, ⟨9, 0, 0, 4⟩, ⟨1, 0, 5, 5⟩] }

theorem forward_program_halts_leaping : leaping.program.Forward ∧ leaping.program.Countable ∧
    ∃ n ≤ 243,
      (∃ final, (start leaping.program [] 0 idle.world).run leaping n = .finished final) ∨
        ∃ final f, (start leaping.program [] 0 idle.world).run leaping n = .failed final f := by
  have forward : leaping.program.Forward := by decide +kernel
  have countable : leaping.program.Countable := show ((5 : Nat) : Int) ≤ Number.maxInt64 by decide
  exact ⟨forward, countable, forward_program_halts forward countable [] 0 idle.world⟩

end Machine

end StackVM
