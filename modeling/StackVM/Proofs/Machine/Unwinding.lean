import StackVM.Proofs.Machine.Segment
import StackVM.Proofs.Machine.Stack

/-! # Unwinding to a handler

A handler remembers the size of the stack and the number of active subroutines. Whatever a program
does under it (calls, returns, inner handlers, errors caught by these), a fault that reaches the
handler finds the subroutines below it as they were when it was installed, because no step touches
more than the inner end of the stacks of control. So the throw leaves exactly the subroutines that
were entered since, and their calling instructions make up the trace.
-/

namespace StackVM.Machine

variable {s : Settings} {m first last left : Machine} {n : Nat}

/-- The subroutines above an outer part return to instructions of the program, but for one that was
entered just now. -/
def ReturnsInside (s : Settings) (outer : List Frame) (m : Machine) : Prop :=
  ∃ inner, m.frames = inner ++ outer ∧
    ∀ f ∈ inner, f.returnIndex < s.program.instructions.size ∨ f.returnIndex = m.ip

private theorem step_returnsInside {outer : List Frame} {next : Machine}
    (stepped : m.step s = .running next)
    (deep : outer.length ≤ next.frames.length) (inside : ReturnsInside s outer m) :
    ReturnsInside s outer next := by
  obtain ⟨inner, frames, returns⟩ := inside
  have settled : ∀ f ∈ inner, f.returnIndex < s.program.instructions.size := by
    intro f member
    obtain bound | current := returns f member
    · exact bound
    · exact current ▸ step_running_lt stepped
  obtain cut | ⟨i, _, entered, ip⟩ := step_frames stepped
  · rw [frames] at cut
    obtain ⟨kept, keptFrames⟩ := List.suffix_of_suffix_length_le (List.suffix_append inner outer) cut deep
    rw [← keptFrames, List.suffix_append_self_iff] at cut
    exact ⟨kept, keptFrames.symm, fun f member => .inl (settled f (cut.subset member))⟩
  · refine ⟨m.frameFor i :: inner, by rw [entered, frames, List.cons_append], ?_⟩
    intro f member
    obtain rfl | older := List.mem_cons.mp member
    · exact .inr ip.symm
    · exact .inl (settled f older)

/-- At every step of a stretch that does not leave the outer subroutines, the ones above them have
been called by instructions of the program. -/
theorem Throughout.returnsInside (outer : List Frame) (initial : m.frames = outer)
    (deep : m.Throughout s n fun state => outer.length ≤ state.frames.length) :
    m.Throughout s n (ReturnsInside s outer) := by
  refine deep.of_step ⟨[], by rw [initial, List.nil_append], by simp⟩ ?_
  intro before next _ long stepped inside
  exact step_returnsInside stepped long inside

/-- The calling instructions of subroutines that return into the program. -/
theorem exists_sites {inner : List Frame}
    (inside : ∀ f ∈ inner, f.returnIndex < s.program.instructions.size) :
    ∃ sites : List Instruction,
      inner.map (fun f => s.program.instructions[f.returnIndex]?) = sites.map some := by
  induction inner with
  | nil => exact ⟨[], rfl⟩
  | cons f rest ih =>
    obtain ⟨sites, found⟩ := ih (fun g member => inside g (List.mem_cons_of_mem f member))
    have bound := inside f (List.mem_cons_self ..)
    refine ⟨s.program.instructions[f.returnIndex] :: sites, ?_⟩
    rw [List.map_cons, List.map_cons, found, Array.getElem?_eq_getElem bound]

/-- The trace of a throw lists the lines of the calling instructions and the line of the fault. -/
theorem trace_eq_lines {inner : List Frame} {sites : List Instruction} (line : Int)
    (found : inner.reverse.map (fun f => s.program.instructions[f.returnIndex]?) = sites.map some) :
    trace s inner line = sites.map (fun site => .ofInt site.line) ++ [.ofInt line] := by
  have lines := congrArg (List.map fun site : Option Instruction =>
    Value.ofInt ((site.map (·.line)).getD 0)) found
  simp only [List.map_map] at lines
  rw [trace]
  congr 1

/-- A throw to a handler leaves exactly the subroutines above those that were active when it was
installed. -/
theorem throwTo_eq {h : Handler} {inner outer : List Frame} (frames : m.frames = inner ++ outer)
    (depth : h.savedDepth = outer.length) (message : String) (line : Int) :
    m.throwTo s h message line =
      { m with
        ip := h.target
        handlers := m.handlers.tail
        frames := outer
        stack := errorRecord message line (trace s inner line) :: m.stack.truncate h.savedSize } := by
  have leaving : (inner ++ outer).length - h.savedDepth = inner.length := by
    rw [depth, List.length_append]
    omega
  simp only [throwTo, leaving, frames, List.take_left, List.drop_left]

/-- A fault that reaches a handler restores what the handler remembers, after any stretch of a run
under it: its own instruction follows, the outer handlers and the subroutines are those of the
moment it was installed, and the stack is cut to its former size and holds the record of the error.
The record traces the calling instructions of the subroutines that were left, the outermost first,
and then the line of the fault. -/
theorem throw_unwinds {entry : Machine} {install i : Instruction} {f : Fault}
    (installs : entry.Executing s .pushCatch install) (installed : entry.step s = .running first)
    (stretch : first.run s n = .running last)
    (guarded : first.Throughout s n fun state =>
      entry.handlers.length < state.handlers.length ∧ entry.frames.length ≤ state.frames.length)
    (raises : last.Raises s i f left) (catchable : f.isCatchable = true)
    (innermost : last.handlers.length = entry.handlers.length + 1) :
    ∃ (unwound : List Frame) (sites : List Instruction), last.frames = unwound ++ entry.frames ∧
      unwound.reverse.map (fun frame => s.program.instructions[frame.returnIndex]?) = sites.map some ∧
      let trace := sites.map (fun site => Value.ofInt site.line) ++ [.ofInt i.line]
      trace.length = last.frames.length - entry.frames.length + 1 ∧
      last.step s = .running { left with
        ip := install.operand0.toNat
        handlers := entry.handlers
        frames := entry.frames
        stack := .ofBottom (left.stack.fromBottom.take (min entry.stack.length left.stack.length) ++
          [.obj [("line", .ofInt i.line), ("message", .str f.message), ("stack", .arr trace)]]) } := by
  have start : first = { entry with ip := entry.ip + 1, handlers := entry.handlerFor install :: entry.handlers } := by
    rw [installs.step_ok rfl] at installed
    cases installed
    rfl
  -- The handler has survived the stretch, and by the count of handlers nothing lies above it.
  have handlers : last.handlers = entry.handlerFor install :: entry.handlers := by
    have many : first.Throughout s n fun state =>
        (entry.handlerFor install :: entry.handlers).length ≤ state.handlers.length :=
      fun k bound state reached => (guarded k bound state reached).1
    have kept := (Throughout.outer_handlers _ (start ▸ List.suffix_refl _) many).at_last stretch
    exact (kept.eq_of_length innermost.symm).symm
  obtain ⟨unwound, frames, returns⟩ := (Throughout.returnsInside entry.frames (by rw [start])
    (fun k bound state reached => (guarded k bound state reached).2)).at_last stretch
  have inside : ∀ frame ∈ unwound.reverse, frame.returnIndex < s.program.instructions.size := by
    obtain ⟨op, executing, _⟩ := raises
    intro frame member
    -- A subroutine entered just now returns to the failing instruction, which is in the program.
    obtain bound | current := returns frame (List.mem_reverse.mp member)
    · exact bound
    · exact current ▸ (Array.getElem?_eq_some_iff.mp executing.fetched).1
  obtain ⟨sites, found⟩ := exists_sites inside
  have count : sites.length = unwound.length := by
    have lengths := congrArg List.length found
    simpa using lengths.symm
  refine ⟨unwound, sites, frames, found, ?_, ?_⟩
  · rw [List.length_append, List.length_map, count, frames, List.length_append]
    simp
  · rw [raises.step_caught catchable handlers, throwTo_eq (raises.control.2.1.trans frames) rfl,
      trace_eq_lines i.line found, raises.control.2.2, handlers, Stack.ofBottom_concat,
      ← Stack.truncate_eq_take_min]
    rfl

/-- An inner handler catches a first fault; a second one is raised in a subroutine. -/
private def failingTwice : Settings where
  program :=
    { instructions := #[⟨17, 9, 0, 1⟩, ⟨17, 3, 0, 2⟩, ⟨12, 0, 0, 3⟩, ⟨8, 0, 0, 4⟩, ⟨5, 0, 0, 5⟩, ⟨12, 0, 0, 6⟩] }

/-- A value, a subroutine and a handler are there before the program installs its own handler. -/
private def guardedStart : Machine :=
  { idle with stack := [.bool true], frames := [⟨7, 0, .null⟩], handlers := [⟨8, 0, 1⟩] }

private def guardedRun (n : Nat) : Machine := (guardedStart.run failingTwice n).machine

theorem throw_unwinds_failingTwice :
    ∃ (unwound : List Frame) (sites : List Instruction),
      (guardedRun 5).frames = unwound ++ [⟨7, 0, .null⟩] ∧
      unwound.reverse.map (fun frame => failingTwice.program.instructions[frame.returnIndex]?) = sites.map some ∧
      let trace := sites.map (fun site => Value.ofInt site.line) ++ [.ofInt 6]
      trace.length = 2 ∧
      (guardedRun 5).step failingTwice = .running { guardedRun 5 with
        ip := 9
        handlers := [⟨8, 0, 1⟩]
        frames := [⟨7, 0, .null⟩]
        stack := [.obj [("line", .ofInt 6), ("message", .str "Stack underflow"), ("stack", .arr trace)],
          .bool true] } := by
  have installs : guardedStart.Executing failingTwice .pushCatch ⟨17, 9, 0, 1⟩ := ⟨rfl, rfl⟩
  have installed : guardedStart.step failingTwice = .running (guardedRun 1) := rfl
  have stretch : (guardedRun 1).run failingTwice 4 = .running (guardedRun 5) := rfl
  have guarded : (guardedRun 1).Throughout failingTwice 4 fun state =>
      guardedStart.handlers.length < state.handlers.length ∧ guardedStart.frames.length ≤ state.frames.length := by
    intro k bound state reached
    obtain rfl | rfl | rfl | rfl | rfl : k = 0 ∨ k = 1 ∨ k = 2 ∨ k = 3 ∨ k = 4 := by omega
    all_goals
      cases reached
      decide
  have raises : (guardedRun 5).Raises failingTwice ⟨12, 0, 0, 6⟩ .stackUnderflow (guardedRun 5) :=
    ⟨.swap, ⟨rfl, rfl⟩, rfl⟩
  exact throw_unwinds installs installed stretch guarded raises rfl rfl

end StackVM.Machine
