import StackVM.Shell.Builtin.Variables
import StackVM.Shell.Permissions

/-! # Builtins on processes, signals and directories -/

namespace StackVM.Shell.Builtin

/-- The signals by their numbers. -/
def signalNames : List (Nat × String) :=
  [(0, "EXIT"), (1, "HUP"), (2, "INT"), (3, "QUIT"), (4, "ILL"), (5, "TRAP"), (6, "ABRT"),
    (7, "BUS"), (8, "FPE"), (9, "KILL"), (10, "USR1"), (11, "SEGV"), (12, "USR2"), (13, "PIPE"),
    (14, "ALRM"), (15, "TERM"), (16, "STKFLT"), (17, "CHLD"), (18, "CONT"), (19, "STOP"),
    (20, "TSTP"), (21, "TTIN"), (22, "TTOU"), (23, "URG"), (24, "XCPU"), (25, "XFSZ"),
    (26, "VTALRM"), (27, "PROF"), (28, "WINCH"), (29, "POLL"), (30, "PWR"), (31, "SYS")]

/-- What is reported of a process that a signal ended. -/
def signalReport : Nat → String
  | 1 => "Hangup\n"
  | 3 => "Quit\n"
  | 4 => "Illegal instruction\n"
  | 5 => "Trace/breakpoint trap\n"
  | 6 => "Aborted\n"
  | 7 => "Bus error\n"
  | 8 => "Floating point exception\n"
  | 9 => "Killed\n"
  | 10 => "User defined signal 1\n"
  | 11 => "Segmentation fault\n"
  | 12 => "User defined signal 2\n"
  | 14 => "Alarm clock\n"
  | 15 => "Terminated\n"
  | 16 => "Stack fault\n"
  | 24 => "CPU time limit exceeded\n"
  | 25 => "File size limit exceeded\n"
  | 26 => "Virtual timer expired\n"
  | 27 => "Profiling timer expired\n"
  | 29 => "I/O possible\n"
  | 30 => "Power failure\n"
  | 31 => "Bad system call\n"
  | _ => ""

def signal? (text : String) : Option (Nat × String) :=
  let upper := String.ofList (text.toList.map Char.toUpper)
  let bare := if upper.startsWith "SIG" then String.ofList (upper.toList.drop 3) else upper
  match wholeNumber? 10 text.toList with
  | some n => signalNames.find? fun x => (x.1 : Int) == n
  | none => signalNames.find? fun x => x.2 == bare

/-- Signals that do nothing to a process that has no trap for them. -/
def isHarmless (signal : Nat) : Bool := [0, 17, 18, 23, 28].contains signal

/-- Sends a signal to a process. A trap is noted; without one, a signal to the shell ends it. A job
that has not run yet never runs. -/
def sendSignal (signal : Nat) (name : String) (process : Int) (s : Session) : Session :=
  if process == s.process || process == 0 then
    match if signal == 9 then none else s.traps.get? name with
    | some action => if action.isEmpty then s else { s with signals := s.signals ++ [name] }
    | none => if isHarmless signal then s else s.finish (.killed signal)
  else if s.jobs.any fun job => (job.process : Int) == process then
    { s with jobs := s.jobs.map fun job =>
        if (job.process : Int) == process && job.work.isSome && !isHarmless signal then
          { job with work := none, ending := .killed signal }
        else job }
  else s.complain "kill: No such process\n" 1

/-- The job that a process number or a text such as `%1` stands for. -/
def findJob (s : Session) (text : String) : Except String (Option BackgroundJob) :=
  let missing := .error ("No such job: " ++ text)
  match text.toList with
  | '%' :: rest =>
    if rest.isEmpty || rest == ['%'] || rest == ['+'] then
      match s.jobs.getLast? with
      | some job => .ok (some job)
      | none => .error "No current job"
    else if rest == ['-'] then
      match s.jobs.dropLast.getLast? with
      | some job => .ok (some job)
      | none => .error "No previous job"
    else match wholeNumber? 10 rest with
      | some n => match s.jobs.find? fun job => (job.number : Int) == n with
        | some job => .ok (some job)
        | none => missing
      | none => missing
  | cs => match wholeNumber? 10 cs with
    | some n => .ok (s.jobs.find? fun job => (job.process : Int) == n)
    | none => .error ("Illegal number: " ++ text)

/-- Sends a signal to all of some processes or jobs. -/
def killAll (signal : Nat) (name : String) (targets : List String) (s : Session) : Session :=
  targets.foldl (fun s target =>
    if target.startsWith "%" then
      match findJob s target with
      | .ok (some job) => sendSignal signal name job.process s
      | .ok none => s
      | .error message => s.complain ("kill: " ++ message) 2
    else match wholeNumber? 10 target.toList with
      | some process => sendSignal signal name process s
      | none => s.complain ("kill: Illegal number: " ++ target) 2) s

/-- Lists the signals, or names the one that a status tells of. -/
def listSignals (arguments : List String) (s : Session) : Session :=
  match arguments with
  | [] => s.emit 1 ("0\n" ++ unlines ((signalNames.drop 1).map (·.2)))
  | text :: _ =>
    match wholeNumber? 10 text.toList with
    | none => s.complain ("kill: Illegal number: " ++ text) 2
    | some n =>
      let n := if 128 < n then n - 128 else n
      match (signalNames.drop 1).find? fun x => (x.1 : Int) == n with
      | some (_, name) => s.emit 1 (name ++ "\n")
      | none => s.complain ("kill: invalid signal number or exit status: " ++ text) 2

def kill (arguments : List String) (s : Session) : Session :=
  let s := { s with status := 0 }
  let usage := s.complain ("kill: Usage: kill [-s sigspec | -signum | -sigspec] [pid | job]... or\n" ++
    "kill -l [exitstatus]") 2
  let send := fun (signal : Nat) (name : String) (targets : List String) =>
    if targets.isEmpty then usage else killAll signal name targets s
  match arguments with
  | [] => usage
  | first :: rest =>
    if !first.startsWith "-" then send 15 "TERM" arguments
    else match signal? (String.ofList (first.toList.drop 1)) with
      | some (signal, name) => send signal name rest
      | none =>
        match Arguments.read { plain := "l", valued := "s", strict := true, builtin := true } arguments with
        | .error message => s.complain ("kill: " ++ message) 2
        | .ok a =>
          if a.has 'l' then listSignals a.operands s
          else match a.value? 's' with
            | none => send 15 "TERM" a.operands
            | some name =>
              match signal? name with
              | some (signal, name) => send signal name a.operands
              | none => s.complain ("kill: invalid signal number or name: " ++ name) 2

/-- What is shown of a job. -/
def jobLine (s : Session) (long : Bool) (job : BackgroundJob) : String :=
  let mark := if some job.process == s.jobs.getLast?.map (·.process) then "+"
    else if some job.process == s.jobs.dropLast.getLast?.map (·.process) then "-" else " "
  let state := if job.work.isSome then "Running"
    else match job.ending with
      | .exited 0 => "Done"
      | .exited code => "Done(" ++ numeral code ++ ")"
      | .killed signal => String.ofList ((signalReport signal).toList.filter (· != '\n'))
  let start := "[" ++ numeral job.number ++ "] " ++ mark ++ " " ++
    (if long then numeral job.process ++ " " else "") ++ state
  start ++ String.ofList (List.replicate (max 1 (33 - start.length)) ' ') ++ "\n"

/-- Lists the commands in the background, the latest first; those that have ended are then
forgotten. -/
def listJobs (arguments : List String) (s : Session) : Session :=
  let line := fun (job : BackgroundJob) =>
    if arguments.contains "-p" then numeral job.process ++ "\n"
    else jobLine s (arguments.contains "-l") job
  let s := s.emit 1 (String.join (s.jobs.reverse.map line))
  { s with status := 0, jobs := s.jobs.filter (·.work.isSome) }

/-- Sets, clears or lists traps. -/
def trap (arguments : List String) (s : Session) : Session :=
  let s := { s with status := 0 }
  let arguments := if arguments.head? == some "--" then arguments.tail else arguments
  let change := fun (names : List String) (step : Session → String → Session) =>
    (names.foldl (fun (s, good) text =>
      if !good then (s, false)
      else match signal? text with
        | some (_, name) => (step s name, true)
        | none => ({ s.emit 2 ("trap: " ++ text ++ ": bad trap\n") with status := 1 }, false))
      (s, true)).1
  match arguments with
  | [] =>
    let order := signalNames.filterMap fun (_, name) => (s.traps.get? name).map (name, ·)
    s.emit 1 (String.join (order.map fun (name, action) =>
      "trap -- " ++ quoteText action ++ " " ++ name ++ "\n"))
  | first :: rest =>
    if first == "-" || rest.isEmpty || (wholeNumber? 10 first.toList).isSome then
      change (if first == "-" then rest else first :: rest) fun s name =>
        { s with traps := s.traps.erase name }
    else change rest fun s name => { s with traps := s.traps.insert name first }

def umask (arguments : List String) (s : Session) : Session :=
  let s := { s with status := 0 }
  match arguments with
  | [] => s.emit 1 (Permissions.octal 4 s.mask ++ "\n")
  | ["-S"] =>
    let allowed := 0o777 - s.mask
    s.emit 1 ("u=" ++ Permissions.letters (allowed >>> 6) ++ ",g=" ++ Permissions.letters (allowed >>> 3) ++
      ",o=" ++ Permissions.letters allowed ++ "\n")
  | text :: _ =>
    if text.toList.all Char.isDigit then
      match Permissions.ofText? text false 0 0 with
      | some mask => { s with mask := mask % 0o1000 }
      | none => s.complain ("umask: Illegal number: " ++ text) 2
    else match Permissions.ofText? text false 0 (0o777 - s.mask) with
      | some allowed => { s with mask := 0o777 - allowed % 0o1000 }
      | none => s.complain ("umask: Illegal mode: " ++ text) 2

/-- A path without dots: each pair of dots takes the name before it away. -/
def tidyPath (path : String) : String :=
  let names := (path.splitOn "/").foldl (fun names name =>
    if name.isEmpty || name == "." then names
    else if name == ".." then names.dropLast
    else names ++ [name]) ([] : List String)
  "/" ++ "/".intercalate names

/-- Goes to a directory; `none` if that is impossible. -/
def enter? (s : Session) (physical : Bool) (path : String) : Option Session :=
  let logical := if path.startsWith "/" then tidyPath path else tidyPath (s.directory ++ "/" ++ path)
  let target := if physical then path else logical
  match s.files.locate (decode target) with
  | .ok spot =>
    if spot.entry.any Entry.isDirectory then
      let files := { s.files with working := spot.place }
      let directory := if physical then encode ("/" ++ "/".intercalate spot.place) else logical
      some { s with files, directory }
    else none
  | .error _ => none

def cd (arguments : List String) (s : Session) : Session :=
  let (physical, arguments) := match arguments with
    | "-P" :: rest => (true, rest)
    | "-L" :: rest => (false, rest)
    | "--" :: rest => (false, rest)
    | rest => (false, rest)
  let (path, shown) := match arguments with
    | [] => (s.get "HOME", false)
    | "-" :: _ => (s.get "OLDPWD", true)
    | path :: _ => (path, false)
  let bases := if path.startsWith "/" || path.startsWith "." || (s.get "CDPATH").isEmpty then [""]
    else ((s.get "CDPATH").splitOn ":") ++ [""]
  let found := bases.findSome? fun base =>
    let full := if base.isEmpty then path else base ++ "/" ++ path
    (enter? s physical full).map fun s => (s, !base.isEmpty)
  if path.isEmpty then { s with status := 0 }
  else match found with
    | none => s.complain ("cd: can't cd to " ++ path) 2
    | some (after, named) =>
      let after := (after.assign "OLDPWD" s.directory).assign "PWD" after.directory
      let after := { after with status := 0 }
      if shown || named then after.emit 1 (after.directory ++ "\n") else after

def pwd (arguments : List String) (s : Session) : Session :=
  let path := if arguments.contains "-P" then s.workingPath else s.directory
  { s.emit 1 (path ++ "\n") with status := 0 }

/-- Leaves loops or goes on with their next turn. -/
def leaveLoops (flow : Nat → Flow) (name : String) (arguments : List String) (s : Session) :
    Session :=
  match wholeNumber? 10 (arguments.headD "1").toList with
  | some n =>
    if n < 1 then s.abort (name ++ ": Illegal number: " ++ arguments.headD "1")
    else
      let levels := min n.toNat s.loops
      { s with status := 0, flow := if levels == 0 then .running else flow levels }
  | none => s.abort (name ++ ": Illegal number: " ++ arguments.headD "1")

/-- The status that an argument gives, or the present one. -/
def statusOf (name : String) (arguments : List String) (s : Session) : Except Session Nat :=
  match arguments with
  | [] => .ok s.status
  | text :: _ =>
    match wholeNumber? 10 text.toList with
    | some n => if n < 0 then .error (s.abort (name ++ ": Illegal number: " ++ text))
      else .ok (n.toNat % 0x100000000)
    | none => .error (s.abort (name ++ ": Illegal number: " ++ text))

def exit (arguments : List String) (s : Session) : Session :=
  match statusOf "exit" arguments s with
  | .ok n => s.finish (.exited (n % 256))
  | .error s => s

/-- Returns from a function or a script. -/
def returnFrom (arguments : List String) (s : Session) : Session :=
  match statusOf "return" arguments s with
  | .ok n =>
    if s.calls == 0 then s.finish (.exited (n % 256))
    else { s with status := n, flow := .returning }
  | .error s => s

/-- Defines or shows short forms of commands. -/
def makeAlias (arguments : List String) (s : Session) : Session :=
  let s := { s with status := 0 }
  let shown := fun (name text : String) => name ++ "=" ++ quoteText text ++ "\n"
  if arguments.isEmpty then s.emit 1 (String.join (s.aliases.map fun (name, text) => shown name text))
  else arguments.foldl (fun s argument =>
    match splitAssignment argument with
    | (name, some text) => { s with aliases := s.aliases.insert name text }
    | (name, none) =>
      match s.aliases.get? name with
      | some text => s.emit 1 (shown name text)
      | none => { s.emit 2 ("alias: " ++ name ++ " not found\n") with status := 1 }) s

def removeAlias (arguments : List String) (s : Session) : Session :=
  if arguments.contains "-a" then { s with aliases := [], status := 0 }
  else arguments.foldl (fun s name =>
    if s.aliases.has name then { s with aliases := s.aliases.erase name }
    else { s.emit 2 ("unalias: " ++ name ++ " not found\n") with status := 1 }) { s with status := 0 }

end StackVM.Shell.Builtin
