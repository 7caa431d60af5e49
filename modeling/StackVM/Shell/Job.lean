import StackVM.Shell.Builtin.Processes
import StackVM.Shell.Redirection

/-! # Shells within shells

Parts of a script that run in shells of their own: subshells, the stages of pipelines and commands in
the background. The stages of a pipeline run one after the other, each with the output of the one
before. A command in the background runs when it is waited for, at the latest at the end.
-/

namespace StackVM.Shell.Job

/-- Runs the commands in the background that have not run yet. -/
def settle (run : Runner) (s : Session) : Session :=
  s.jobs.foldl (fun s job =>
    match job.work with
    | none => s
    | some work =>
      let after := s.isolate fun t => run (.subshell work.command) { t with
        toSetting := work.setting, files := { t.files with working := work.working } }
      { after with
        status := s.status
        jobs := after.jobs.map fun j =>
          if j.process == job.process then { j with work := none, ending := .exited after.status }
          else j }) s

/-- Does what is to be done at the end of a shell. -/
def conclude (run : Runner) (s : Session) : Session :=
  let ending := s.outcome
  let s := match ending, s.traps.get? "EXIT" with
    | .exited code, some action =>
      let after := run (.script action)
        { s with flow := .running, status := code, traps := s.traps.erase "EXIT", loops := 0 }
      match after.flow with
      | .ended _ => after
      | _ => after.finish ending
    | ending, _ => s.finish ending
  { settle run { s with flow := .running } with flow := s.flow, status := s.status }

def inShell (run : Runner) (inner : Session → Session) (s : Session) : Session :=
  s.isolate fun t => conclude run (inner t)

/-- Starts a command in the background; its input is empty. -/
def launch (body : Command) (s : Session) : Session :=
  let (number, s) := s.addOpened (.device .null)
  let setting := (s.setStream 0 (some number)).toSetting
  let work := { command := body, setting, working := s.files.working }
  let jobs := s.jobs.filter fun job => job.work.isSome || !job.awaited
  let isFree := fun (n : Nat) => jobs.all fun job => job.number != n
  let number := ((List.range (jobs.length + 1)).map (· + 1)).find? isFree
  { s with
    status := 0
    jobs := jobs ++ [{ number := number.getD 0, process := s.nextProcess, work := some work }]
    background := some s.nextProcess
    nextProcess := s.nextProcess + 1 }

/-- Runs the stages of a pipeline. -/
def stages (run : Runner) : List Command → Session → Session
  | [], s => s
  | [last], s => inShell run (run last) s
  | stage :: rest, s =>
    let (sink, opened) := s.addOpened (.sink ByteArray.empty)
    let after := inShell run (fun t => run stage { t with piped := true })
      (opened.setStream 1 (some sink))
    let bytes := (after.written sink).toList
    let closed := { after with opened := after.opened.setIfInBounds sink .directory }
    let (source, next) := closed.addOpened (.source bytes)
    if next.isRunning then
      stages run rest ({ next with streams := s.streams, status := s.status }.setStream 0
        (some source))
    else next

def pipeline (run : Runner) (all : List Command) (s : Session) : Session :=
  { stages run all s with streams := s.streams }

/-- Waits for commands in the background. -/
def wait (run : Runner) (arguments : List String) (s : Session) : Session :=
  let s := settle run { s with status := 0 }
  if arguments.isEmpty then
    { s with jobs := s.jobs.map fun job => { job with awaited := true } }
  else (arguments.foldl (fun (s, going) argument =>
    match going, Builtin.findJob s argument with
    | false, _ => (s, false)
    | true, .error message => (s.complain ("wait: " ++ message) 2, false)
    | true, .ok none => ({ s with status := 127 }, true)
    | true, .ok (some job) =>
      let s := match job.ending with
        | .killed signal => s.emit 2 (Builtin.signalReport signal)
        | .exited _ => s
      let jobs := s.jobs.map fun j =>
        if j.process == job.process then { j with awaited := true } else j
      ({ s with status := job.ending.status, jobs }, true)) (s, true)).1

def handleSignals (run : Runner) (s : Session) : Session :=
  s.signals.foldl (fun s name =>
    match s.isRunning, s.traps.get? name with
    | true, some action =>
      let after := run (.script action) s
      if after.isRunning then { after with status := s.status } else after
    | _, _ => s) { s with signals := [] }

/-- What follows a command: signals are handled, and a failure ends the shell if that is asked
for. -/
def check (run : Runner) (s : Session) : Session :=
  let s := if s.signals.isEmpty then s else handleSignals run s
  if s.option 'e' && !s.tested && s.isRunning && s.status != 0 then s.finish (.exited s.status)
  else s

end StackVM.Shell.Job
