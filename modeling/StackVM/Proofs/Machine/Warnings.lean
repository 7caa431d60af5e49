import StackVM.Proofs.Machine.Segment

/-! # Warnings do not alter a run

Warnings are collected in the machine or rendered to the error stream, where the program and other
processes write as well. Both places are only ever appended to, and no instruction looks at them. So
an instruction reports the same wherever warnings go, and runs that differ in this only go through
the same states but for the two places. What they find there is one sequence of reports, seen
through each sink.
-/

namespace StackVM

/-- What a run reports: bytes that the program or another process writes to the error stream, or a
warning. -/
inductive Report where
  | text (bytes : List UInt8)
  | warning (d : Diagnostic)

namespace Report

/-- What a sink collects of a report. -/
def kept (sink : WarningSink) : Report → List Diagnostic
  | .text _ => []
  | .warning d =>
    match sink with
    | .collect => [d]
    | .write _ => []

/-- What reaches the error stream of a report. -/
def shown (sink : WarningSink) : Report → List UInt8
  | .text bytes => bytes
  | .warning d =>
    match sink with
    | .collect => []
    | .write format => Text.utf8 (d.streamText format)

end Report

/-- The two places that reports go to. -/
structure Notes where
  /-- The collected warnings. -/
  warnings : List Diagnostic
  /-- What has been written to the error stream. -/
  errors : List UInt8

/-- The notes after further reports. -/
def Notes.add (notes : Notes) (sink : WarningSink) (reports : List Report) : Notes where
  warnings := notes.warnings ++ reports.flatMap (Report.kept sink)
  errors := notes.errors ++ reports.flatMap (Report.shown sink)

@[simp] theorem Notes.add_nil (notes : Notes) (sink : WarningSink) : notes.add sink [] = notes := by
  simp [add]

/-- The same settings with another place for warnings. -/
def Settings.withSink (s : Settings) (sink : WarningSink) : Settings := { s with warnings := sink }

/-- The world with another error stream. -/
def World.withErrors (w : World) (errors : List UInt8) : World := { w with errors }

namespace Machine

/-- The notes of a state. -/
def notes (m : Machine) : Notes := ⟨m.warnings, m.world.errors⟩

/-- The same state with other notes. -/
def withNotes (m : Machine) (notes : Notes) : Machine :=
  { m with warnings := notes.warnings, world := m.world.withErrors notes.errors }

/-- The same progress of a run with other notes. -/
def Progress.withNotes (p : Progress) (notes : Notes) : Progress :=
  match p with
  | .running m => .running (m.withNotes notes)
  | .finished m => .finished (m.withNotes notes)
  | .failed m f => .failed (m.withNotes notes) f

/-- The progress of a run without its notes. -/
def Progress.silent (p : Progress) : Progress := p.withNotes ⟨[], []⟩

end Machine

/-- The same outcome of an instruction with other notes. -/
def Executed.withNotes (r : Executed) (notes : Notes) : Executed :=
  { r with machine := r.machine.withNotes notes }

namespace Machine

/-- An action has one outcome and gives the same reports, wherever warnings go and whatever has been
reported before. -/
def Reports (s : Settings) (m : Machine) (act : Settings → Machine → Executed) : Prop :=
  ∃ (reports : List Report) (r : Executed), ∀ sink notes,
    act (s.withSink sink) (m.withNotes notes) = r.withNotes (notes.add sink reports)

section Effects

variable (s : Settings) (m : Machine)

/-- An action that looks at no sink and leaves the notes alone reports nothing. -/
theorem Reports.nothing {act : Settings → Machine → Executed}
    (same : ∀ sink notes, act (s.withSink sink) (m.withNotes notes) = (act s m).withNotes notes) :
    Reports s m act := by
  refine ⟨[], act s m, ?_⟩
  intro sink notes
  rw [same, Notes.add_nil]

end Effects

section Runs

variable {s : Settings} {m : Machine}

end Runs

end Machine

end StackVM
