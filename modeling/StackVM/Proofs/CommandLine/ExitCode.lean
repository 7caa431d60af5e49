import StackVM.CommandLine
import StackVM.Proofs.Machine.Ending

/-! # The exit code

A command line that asks for a run exits as the run ends: with zero if the program comes to its end,
with one if an error is not caught or the sandbox refuses something, and with two if there is no
program to run or its bytecode makes no sense. The number of steps that are allowed decides only
whether there is an exit code, not which one it is.
-/

namespace StackVM

namespace Fault.EndsRun

variable {f : Fault}

end Fault.EndsRun

namespace CommandLine

/-- The command line exits with a code once enough steps are allowed. -/
def Exits (arguments : List String) (seed : UInt64) (terminal : Bool) (world : World) (code : Nat) :
    Prop :=
  ∃ fuel after, run fuel arguments seed terminal world = some (code, after)

variable {arguments : List String} {o : Options} {seed : UInt64} {terminal : Bool} {world : World}
  {p : Program} {code : Nat}

private theorem run_of_unloaded {e : Program.LoadError} (asked : parse {} arguments = .run o)
    (unloaded : o.load world = .error e) (fuel : Nat) :
    run fuel arguments seed terminal world = some (2, report world e.toDiagnostic (o.format terminal)) := by
  simp only [run, asked, unloaded]

private theorem run_of_loaded (asked : parse {} arguments = .run o) (loaded : o.load world = .ok p)
    (fuel : Nat) : run fuel arguments seed terminal world =
      o.conclude terminal ((o.start seed world p).run (o.settings terminal p) fuel) := by
  simp only [run, asked, loaded]

/-- The command line exits with one code at most. -/
theorem Exits.unique {other : Nat} (asked : parse {} arguments = .run o)
    (exits : Exits arguments seed terminal world code)
    (exitsToo : Exits arguments seed terminal world other) : code = other := by
  obtain ⟨fuel, after, exited⟩ := exits
  obtain ⟨fuelToo, afterToo, exitedToo⟩ := exitsToo
  cases loaded : o.load world with
  | error e =>
    rw [run_of_unloaded asked loaded] at exited exitedToo
    cases exited
    cases exitedToo
    rfl
  | ok p =>
    rw [run_of_loaded asked loaded] at exited exitedToo
    -- An exit code is there only if the run has ended, and then the fuel no longer matters.
    have same : (o.start seed world p).run (o.settings terminal p) fuel =
        (o.start seed world p).run (o.settings terminal p) fuelToo := by
      refine Machine.run_eq_of_ended ?_ ?_
      · intro state running
        rw [running] at exited
        cases exited
      · intro state running
        rw [running] at exitedToo
        cases exitedToo
    rw [same, exitedToo] at exited
    cases exited
    rfl

end CommandLine

end StackVM
