import StackVM.Proofs.Machine.Segment
import StackVM.Proofs.Machine.Stack

/-! # Subroutines return to their callers

The frame that a call pushes stays in its place for as long as the call depth is above that of the
caller, whatever is called, returned from or caught meanwhile. So the return at the depth of the
call finds that frame, and the parameters that the call captured can be read until then.
-/

namespace StackVM.Machine

variable {s : Settings} {m inside last : Machine} {n : Nat}

private theorem Executing.step_pushIndex {i : Instruction} (calls : m.Executing s .pushIndex i) :
    m.step s = .running { m with ip := m.ip + 1, frames := m.frameFor i :: m.frames } :=
  calls.step_ok rfl

/-- A call's own frame is the innermost one at its depth. -/
theorem Throughout.call_frame {f : Frame} {outer : List Frame} (initial : m.frames = f :: outer)
    (deep : m.Throughout s n fun state => outer.length < state.frames.length) :
    m.Throughout s n fun state => state.frames.length = outer.length + 1 → state.frames = f :: outer := by
  intro k bound state reached level
  have kept := Throughout.outer_frames (f :: outer) (initial ▸ List.suffix_refl _) deep k bound state reached
  exact (kept.eq_of_length level.symm).symm

/-- Reading the parameters gives those of the innermost subroutine. -/
theorem Executing.step_getParams {i : Instruction} {v : Value} {f : Frame} {outer : List Frame}
    (gets : m.Executing s .get i) (constant : s.program.constant? i.operand0 = some v)
    (name : v.text = "@") (frames : m.frames = f :: outer) :
    m.step s = .running { m with ip := m.ip + 1, stack := f.params :: m.stack } := by
  have ran : m.execute s .get i = .ok { m with stack := f.params :: m.stack } := by
    simp only [execute, withName, constant, name, params?, frames, List.head?_cons, Option.map_some, push]
    rfl
  exact gets.step_ok ran

private theorem keepsValue_iff {f : Frame} : keepsValue s f = true ↔
    ∃ site, s.program.instructions[f.returnIndex]? = some site ∧ site.operand0 ≠ 0 := by
  simp [keepsValue, Option.any_eq_true]

/-- A return that keeps the value of the subroutine changes the control state only. -/
theorem Executing.step_return_keeping {i : Instruction} {f : Frame} {outer : List Frame}
    (returns : m.Executing s .popGotoIndex i) (frames : m.frames = f :: outer)
    (keeps : keepsValue s f = true) :
    m.step s = .running { m with ip := f.returnIndex + 1, frames := outer } := by
  have ran : m.execute s .popGotoIndex i = .jump { m with frames := outer } (f.returnIndex + 1) := by
    simp only [execute, leave, frames, keeps, ↓reduceIte]
  exact returns.step_ok ran

/-- Another return takes the value as the last result and cuts the stack. -/
theorem Executing.step_return_dropping {i : Instruction} {f : Frame} {outer : List Frame}
    (returns : m.Executing s .popGotoIndex i) (frames : m.frames = f :: outer)
    (drops : keepsValue s f = false) :
    m.step s = .running { m with
      ip := f.returnIndex + 1
      frames := outer
      last := m.stack.peek
      stack := m.stack.below.truncate f.savedSize } := by
  have ran : m.execute s .popGotoIndex i = .jump { m with
      frames := outer, last := m.stack.peek, stack := m.stack.below.truncate f.savedSize }
      (f.returnIndex + 1) := by
    simp only [execute, leave, frames, drops, Bool.false_eq_true, ↓reduceIte]
  exact returns.step_ok ran

/-- A return matches its call. While the call depth stays above that of the caller, reading the
parameters at the depth of the call gives those it captured, and a return at that depth removes
exactly the frame of the call: the instruction behind the calling one follows, and the calling
instruction says whether the value of the subroutine stays on the stack. -/
theorem return_matches_call {caller : Machine} {enter : Instruction}
    (calls : caller.Executing s .pushIndex enter) (entered : caller.step s = .running inside)
    (stretch : inside.run s n = .running last)
    (deep : inside.Throughout s n fun state => caller.frames.length < state.frames.length) :
    let params := (caller.peekOperand? enter.operand0).getD .null
    (inside.Throughout s n fun state => state.frames.length = caller.frames.length + 1 →
      ∀ get v, state.Executing s .get get → s.program.constant? get.operand0 = some v → v.text = "@" →
        state.step s = .running { state with ip := state.ip + 1, stack := params :: state.stack }) ∧
    ∀ ret, last.Executing s .popGotoIndex ret → last.frames.length = caller.frames.length + 1 →
      last.frames = ⟨caller.ip + 1, caller.stack.length - 1, params⟩ :: caller.frames ∧
      ((∃ site, s.program.instructions[caller.ip + 1]? = some site ∧ site.operand0 ≠ 0) →
        last.step s = .running { last with ip := caller.ip + 2, frames := caller.frames }) ∧
      ((¬ ∃ site, s.program.instructions[caller.ip + 1]? = some site ∧ site.operand0 ≠ 0) →
        last.step s = .running { last with
          ip := caller.ip + 2
          frames := caller.frames
          last := last.stack.peek
          stack := .ofBottom (last.stack.below.fromBottom.take (max caller.stack.length 1 - 1)) }) := by
  intro params
  have initial : inside.frames = caller.frameFor enter :: caller.frames := by
    rw [calls.step_pushIndex] at entered
    cases entered
    rfl
  have frame := Throughout.call_frame initial deep
  refine ⟨?_, ?_⟩
  · intro k bound state reached level get v gets constant name
    exact gets.step_getParams constant name (frame k bound state reached level)
  · intro ret returns level
    have frames := frame.at_last stretch level
    refine ⟨frames, ?_, ?_⟩
    · intro keeps
      exact returns.step_return_keeping frames (keepsValue_iff.mpr keeps)
    · intro drops
      have dropping : keepsValue s (caller.frameFor enter) = false :=
        Bool.eq_false_iff.mpr fun keeps => drops (keepsValue_iff.mp keeps)
      have size : max caller.stack.length 1 - 1 = caller.stack.length - 1 := by omega
      rw [returns.step_return_dropping frames dropping, size, ← Stack.truncate_eq_take]
      rfl

/-- A subroutine that reads its parameters, catches a fault and calls another subroutine. -/
private def busySubroutine : Settings where
  program :=
    { instructions := #[⟨8, 0, 0, 1⟩, ⟨3, 0, 0, 2⟩, ⟨17, 4, 0, 3⟩, ⟨10, 9, 0, 4⟩, ⟨8, 0, 0, 5⟩, ⟨9, 0, 0, 6⟩,
        ⟨9, 0, 0, 7⟩]
      constants := #[.str "@"] }

private def busyCaller : Machine := { idle with stack := [.str "parameter", .bool true] }

private def busyRun (n : Nat) : Machine := (busyCaller.run busySubroutine n).machine

theorem return_matches_call_busy :
    (busyRun 1).step busySubroutine = .running { busyRun 1 with
        ip := 2
        stack := [.str "parameter", .str "parameter", .bool true] } ∧
      (busyRun 6).frames = [⟨1, 1, .str "parameter"⟩] ∧
      (busyRun 6).step busySubroutine = .running { busyRun 6 with
        ip := 2
        frames := []
        last := .str "parameter"
        stack := [.bool true] } := by
  have calls : busyCaller.Executing busySubroutine .pushIndex ⟨8, 0, 0, 1⟩ := ⟨rfl, rfl⟩
  have entered : busyCaller.step busySubroutine = .running (busyRun 1) := rfl
  have stretch : (busyRun 1).run busySubroutine 5 = .running (busyRun 6) := rfl
  have deep : (busyRun 1).Throughout busySubroutine 5 fun state =>
      busyCaller.frames.length < state.frames.length := by
    intro k bound state reached
    obtain rfl | rfl | rfl | rfl | rfl | rfl : k = 0 ∨ k = 1 ∨ k = 2 ∨ k = 3 ∨ k = 4 ∨ k = 5 := by omega
    all_goals
      cases reached
      decide
  have gets : (busyRun 1).Executing busySubroutine .get ⟨3, 0, 0, 2⟩ := ⟨rfl, rfl⟩
  have returns : (busyRun 6).Executing busySubroutine .popGotoIndex ⟨9, 0, 0, 7⟩ := ⟨rfl, rfl⟩
  obtain ⟨parameters, returned⟩ := return_matches_call calls entered stretch deep
  obtain ⟨frames, _, dropping⟩ := returned _ returns rfl
  refine ⟨parameters 0 (by decide) _ rfl rfl _ _ gets rfl rfl, frames, dropping ?_⟩
  rintro ⟨site, fetched, keeps⟩
  cases fetched
  exact keeps rfl

end StackVM.Machine
