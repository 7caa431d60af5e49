import StackVM.Proofs.Machine.Instruction

/-! # Stretches of a run

A run is cut at any of its states and goes on from there as a run of its own. What every step of a
stretch keeps holds throughout it; so outer subroutines and handlers survive as long as the stacks
of control do not get shorter than they are. An ending is reached by the last step of a stretch and
does not change when more steps are allowed, so that a run has at most one ending.
-/

namespace StackVM.Machine

/-- Goes on from a state that is still running; an ending stays as it is. -/
def Progress.andThen (p : Progress) (next : Machine → Progress) : Progress :=
  match p with
  | .running m => next m
  | .finished m => .finished m
  | .failed m f => .failed m f

namespace Progress

/-- The state that a run has come to. -/
def machine : Progress → Machine
  | .running m | .finished m | .failed m _ => m

variable {p : Progress} {next : Machine → Progress} {m : Machine} {f : Fault}

private theorem andThen_eq_running (result : p.andThen next = .running m) :
    ∃ middle, p = .running middle ∧ next middle = .running m := by
  cases p with
  | running middle => exact ⟨middle, rfl, result⟩
  | finished _ => cases result
  | failed _ _ => cases result

private theorem andThen_of_ended (ended : ∀ state, p ≠ .running state) : p.andThen next = p := by
  cases p with
  | running state => exact absurd rfl (ended state)
  | finished _ => rfl
  | failed _ _ => rfl

end Progress

variable {s : Settings} {m last : Machine} {n : Nat}

theorem run_succ (s : Settings) (m : Machine) (n : Nat) :
    m.run s (n + 1) = (m.step s).andThen (run s n) := by
  rw [run]
  cases m.step s <;> rfl

/-- Allowing more steps continues the run from where it stands. -/
theorem run_add (s : Settings) (m : Machine) (n k : Nat) :
    m.run s (n + k) = (m.run s n).andThen (run s k) := by
  induction n generalizing m with
  | zero => rw [Nat.zero_add]; rfl
  | succ n ih =>
    rw [Nat.add_right_comm, run_succ, run_succ]
    cases m.step s with
    | running next => exact ih next
    | finished _ => rfl
    | failed _ _ => rfl

/-- The step after `n` steps of a run. -/
theorem run_add_one (s : Settings) (m : Machine) (n : Nat) :
    m.run s (n + 1) = (m.run s n).andThen (step s) := by
  rw [run_add]
  congr 1
  funext state
  rw [run_succ]
  cases state.step s <;> rfl

/-- The last step of a stretch starts from a state that the run has reached before. -/
theorem run_last (reached : m.run s (n + 1) = .running last) :
    ∃ before, m.run s n = .running before ∧ before.step s = .running last :=
  Progress.andThen_eq_running ((run_add_one s m n).symm.trans reached)

/-- A run has at most one ending, however many steps it is allowed. -/
theorem run_eq_of_ended {k : Nat} (ended : ∀ state, m.run s n ≠ .running state)
    (endedToo : ∀ state, m.run s k ≠ .running state) : m.run s n = m.run s k :=
  calc m.run s n = (m.run s n).andThen (run s k) := (Progress.andThen_of_ended ended).symm
    _ = m.run s (n + k) := (run_add s m n k).symm
    _ = m.run s (k + n) := by rw [Nat.add_comm]
    _ = (m.run s k).andThen (run s n) := run_add s m k n
    _ = m.run s k := Progress.andThen_of_ended endedToo

section Throughout

/-- Every state of the first `n` steps of a run has a property, the first and the last included. -/
def Throughout (s : Settings) (n : Nat) (m : Machine) (P : Machine → Prop) : Prop :=
  ∀ k ≤ n, ∀ state, m.run s k = .running state → P state

variable {P D : Machine → Prop}

theorem Throughout.at_last (during : m.Throughout s n P) (reached : m.run s n = .running last) :
    P last :=
  during n (Nat.le_refl n) last reached

/-- What holds at first and is kept by every step of a stretch holds throughout it. A step may rely
on what is known of the stretch, at both of its ends. -/
theorem Throughout.of_step (during : m.Throughout s n D) (initial : P m)
    (kept : ∀ before next, D before → D next → before.step s = .running next → P before → P next) :
    m.Throughout s n P := by
  intro k bound
  induction k with
  | zero =>
    intro state reached
    cases reached
    exact initial
  | succ k ih =>
    intro state reached
    obtain ⟨before, earlier, stepped⟩ := run_last reached
    have within : k ≤ n := Nat.le_of_succ_le bound
    exact kept before state (during k within before earlier) (during (k + 1) bound state reached) stepped
      (ih within before earlier)

/-- Outer subroutines survive a stretch in which the call depth never goes below theirs. -/
theorem Throughout.outer_frames (outer : List Frame) (initial : outer <:+ m.frames)
    (deep : m.Throughout s n fun state => outer.length ≤ state.frames.length) :
    m.Throughout s n fun state => outer <:+ state.frames := by
  refine deep.of_step initial ?_
  intro before next _ long stepped kept
  obtain cut | ⟨i, _, entered, _⟩ := step_frames stepped
  · exact List.suffix_of_suffix_length_le kept cut long
  · rw [entered]
    exact kept.trans (List.suffix_cons _ _)

/-- Outer handlers survive a stretch in which there are never fewer handlers than those. -/
theorem Throughout.outer_handlers (outer : List Handler) (initial : outer <:+ m.handlers)
    (many : m.Throughout s n fun state => outer.length ≤ state.handlers.length) :
    m.Throughout s n fun state => outer <:+ state.handlers := by
  refine many.of_step initial ?_
  intro before next _ long stepped kept
  obtain cut | ⟨i, _, installed⟩ := step_handlers stepped
  · exact List.suffix_of_suffix_length_le kept cut long
  · rw [installed]
    exact kept.trans (List.suffix_cons _ _)

end Throughout

/-- A state before the first instruction, in a world without files whose processes do nothing. -/
def idle : Machine where
  random := ⟨0⟩
  world :=
    { host := ⟨⟨.directory 0 [], [], #[], 0⟩, [], fun job => ⟨.ok (.exited 0), job.files, job.input, [], []⟩⟩
      clock := ⟨0, 0⟩ }

section Endings

variable {final : Machine} {f : Fault}

end Endings

end StackVM.Machine
