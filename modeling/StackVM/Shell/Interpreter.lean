import StackVM.Shell.Builtin
import StackVM.Shell.Reader

/-! # Running scripts

The shell runs a script against files, variables and an input, and reports what was written, how the
shell ended and what is left of the input.
-/

namespace StackVM.Shell

structure Outcome where
  ending : Ending
  files : Files
  /-- What is left of the input. -/
  input : List UInt8
  output : List UInt8
  errors : List UInt8

namespace Interpreter

/-- Runs a command whose failure is not an error. -/
def tested (run : Runner) (c : Command) (s : Session) : Session :=
  { run c { s with tested := true } with tested := s.tested }

def sequence (run : Runner) : Command → Session → Session
  | .sequence first second, s =>
    let s := run first s
    if s.isRunning then sequence run second s else s
  | c, s => run c s

/-- How a loop goes on after a part of it has run: the session, and whether there is a next turn. -/
def afterTurn (s : Session) : Session × Bool :=
  match s.flow with
  | .running => (s, true)
  | .leaving levels =>
    ({ s with flow := if levels ≤ 1 then .running else .leaving (levels - 1) }, false)
  | .continuing levels =>
    if levels ≤ 1 then ({ s with flow := .running }, true)
    else ({ s with flow := .continuing (levels - 1) }, false)
  | _ => (s, false)

/-- So much may be written to a pipe by a loop; after that nobody is taken to read it. -/
def pipeLimit : Nat := 1048576

/-- Ends a loop that writes to a pipe without end. -/
def breakPipe (s : Session) : Session :=
  match s.piped, s.stream? 1 with
  | true, some (.sink bytes) =>
    if pipeLimit < bytes.size then s.finish (.exited 141) else s
  | _, _ => s

/-- Repeats a body while a test succeeds, or until it does; the first number bounds how often, the
second one is the status of the last turn. -/
def repeatBody (run : Runner) (untilSuccess : Bool) (test body : Command) :
    Nat → Nat → Session → Session
  | 0, _, s => s.finish (.killed 11)
  | turns + 1, status, s =>
    let s := tested run test s
    if s.isRunning then
      if (s.status == 0) == untilSuccess then { s with status }
      else match afterTurn (breakPipe (run body s)) with
        | (s, true) => repeatBody run untilSuccess test body turns s.status s
        | (s, false) => s
    else match afterTurn s with
      | (s, true) => repeatBody run untilSuccess test body turns status s
      | (s, false) => s

def repeatEach (run : Runner) (name : String) (body : Command) : List String → Session → Session
  | [], s => s
  | value :: rest, s =>
    let s := s.assign name value
    if !s.isRunning then s
    else match afterTurn (breakPipe (run body s)) with
      | (s, true) => repeatEach run name body rest s
      | (s, false) => s

/-- Runs something as a loop. -/
def inLoop (inner : Session → Session) (s : Session) : Session :=
  { inner { s with loops := s.loops + 1 } with loops := s.loops }

/-- How often a loop may run its body. -/
def maxTurns : Nat := 100000000

/-- Runs the first case with a matching pattern. -/
def choose (run : Runner) (text : List Char) : List (List Word × Command) → Session → Session
  | [], s => { s with status := 0 }
  | (patterns, body) :: rest, s =>
    let (found, s) := matchAny patterns s
    if !s.isRunning then s
    else if found then run body { s with status := 0 }
    else choose run text rest s
where
  /-- One of the patterns matches. -/
  matchAny : List Word → Session → Bool × Session
    | [], s => (false, s)
    | pattern :: rest, s =>
      let (items, s) := Expansion.wordPattern run pattern s
      if !s.isRunning then (false, s)
      else if Glob.accepts items text then (true, s)
      else matchAny rest s

def assignAll (run : Runner) (exported : Bool) :
    List (List Char × Word) → Session → List String × Session
  | [], s => ([], s)
  | (name, word) :: rest, s =>
    let (value, s) := Expansion.assignedText run word s
    if !s.isRunning then ([], s)
    else
      let name := String.ofList name
      let s := s.assign name value
      if !s.isRunning then ([], s)
      else
        let s := if exported then s.markVariable name fun v => { v with exported := true } else s
        let (more, s) := assignAll run exported rest s
        ((name ++ "=" ++ value) :: more, s)

/-- Writes a command that is about to run to the errors, if that is asked for. -/
def trace (streams : List (Nat × Nat)) (words : List String) (s : Session) : Session :=
  if !s.option 'x' || words.isEmpty then s
  else
    let line := s.get "PS4" ++ " ".intercalate words ++ "\n"
    { { s with streams }.emit 2 line with streams := s.streams }

/-- The word assigns something, as an argument of a builtin that makes assignments. -/
def isAssignment : Word → Bool
  | .plain text :: _ => (Source.assignment? text).isSome
  | _ => false

/-- The builtins whose arguments may be assignments. -/
def assigners : List String := ["export", "readonly", "local", "alias"]

/-- The words of a command as fields; assignments among the arguments of some builtins are not
split. -/
def commandFields (run : Runner) : List Word → List String → Session → List String × Session
  | [], fields, s => (fields, s)
  | word :: rest, fields, s =>
    let name := (Builtin.withoutPrefixes fields).headD ""
    let (more, s) := if assigners.contains name && isAssignment word then
        let (text, s) := Expansion.assignedText run word s
        ([text], s)
      else Expansion.wordFields run word s
    if s.isRunning then commandFields run rest (fields ++ more) s else (fields ++ more, s)

def callFunction (run : Runner) (body : Command) (arguments : List String) (s : Session) : Session :=
  let after := run body { s with
    parameters := arguments, hidden := [] :: s.hidden, calls := s.calls + 1, loops := 0
    optionIndex := 1, optionOffset := none }
  let after := Builtin.restoreLocals (after.hidden.headD []) after
  { after with
    parameters := s.parameters, hidden := s.hidden, calls := s.calls, loops := s.loops
    optionIndex := s.optionIndex, optionOffset := s.optionOffset
    flow := if after.flow == .returning then .running else after.flow }

/-- The variables of a new shell. -/
def startVariables (environment : Record String) (directory : String) : Record Variable :=
  let own := [("IFS", " \t\n"), ("OPTIND", "1"), ("PPID", "4241"), ("PS1", "# "), ("PS2", "> "),
    ("PS4", "+ ")]
  let start := own.foldl (fun (r : Record Variable) (name, value) =>
    r.insert name { value := some value }) []
  let all := environment.foldl (fun (r : Record Variable) (name, value) =>
    if isName name.toList && name != "IFS" then
      r.insert name { value := some value, exported := true }
    else r) start
  all.insert "PWD" { value := some directory, exported := true }

def childShell (run : Runner) (name : String) (parameters : List String) (options : List Char)
    (script : String) (s : Session) : Session :=
  let after := { s with nextProcess := s.nextProcess + 1 }.isolate fun t =>
    Job.conclude run (run (.script script) { t with
      toSetting :=
        { bindings := startVariables s.environment s.workingPath
          parameters, name, options, streams := t.streams, mask := t.mask
          process := s.nextProcess, piped := t.piped, directory := s.workingPath }
      status := 0, jobs := [], substituted := none, optionIndex := 1, optionOffset := none })
  match after.flow with
  | .ended (.killed signal) =>
    let after := { after with flow := .running, status := 128 + signal }
    after.emit 2 (Builtin.signalReport signal)
  | _ => after

def shell (run : Runner) (name : String) (arguments : List String) (s : Session) : Session :=
  let failure := fun (message : String) =>
    { s.emit 2 (name ++ ": 0: " ++ message ++ "\n") with status := 2 }
  match Spawning.readInvocation (arguments.length + 1) arguments {} with
  | .error message => failure message
  | .ok i =>
    if i.command then
      match i.operands with
      | [] => failure "-c requires an argument"
      | script :: rest => childShell run (rest.headD name) (rest.drop 1) i.options script s
    else match i.fromInput, i.operands with
      | false, path :: rest =>
        match s.files.read (decode path) with
        | .ok bytes => childShell run path rest i.options (ofBytes bytes.toList) s
        | .error .noEntry => failure ("cannot open " ++ path ++ ": No such file")
        | .error e => failure ("cannot open " ++ path ++ ": " ++ e.text)
      | _, parameters =>
        let bytes := (s.available 0).toOption.getD []
        let taken := s.modifyStream 0 (Opened.advance bytes.length)
        childShell run name parameters i.options (ofBytes bytes) taken

def execute (run : Runner) (words : List String) (s : Session) : Session :=
  match words with
  | [] => s
  | name :: arguments =>
    let waits := name == "sleep" || arguments.any (Redirection.isPipe s)
    let s := if waits then Job.settle run s else s
    match Lookup.program s name with
    | .missing =>
      s.complain (name ++ if name.isEmpty then ": Permission denied" else ": not found") 127
    | .refused => s.complain (name ++ ": Permission denied") 126
    | .script path [] text => childShell run path arguments [] text s
    | .script path (interpreter :: options) _ =>
      run (.program (interpreter :: options ++ path :: arguments)) s
    | .utility program _ =>
      match program with
      | "sh" | "dash" | "bash" => shell run name arguments s
      | "env" => Spawning.env run arguments s
      | "xargs" => Spawning.xargs run arguments s
      | "find" => Finding.find run arguments s
      | "timeout" => Spawning.timeout run arguments s
      | "nice" => wrapped run "nice" ["-n"] arguments s
      | "nohup" | "setsid" => wrapped run program [] arguments s
      | "stdbuf" => wrapped run "stdbuf" ["-i", "-o", "-e"] arguments s
      | program =>
        match Registry.utilities.lookup program with
        | some utility => Spawning.runUtility utility program name arguments s
        | none => s.complain (name ++ ": not found") 127
where
  /-- Runs a program behind another one that only changes how it runs. -/
  wrapped (run : Runner) (name : String) (valued arguments : List String) (s : Session) : Session :=
    match Spawning.dropOptions valued arguments with
    | [] => Spawning.fail s name "missing operand" 125
    | words => Spawning.start run name words s

/-- Runs a command that is not a special builtin with variables of its own. -/
def withAssignments (run : Runner) (streams : List (Nat × Nat))
    (assignments : List (List Char × Word)) (words : List String) (inner : Session → Session)
    (s : Session) : Session :=
  let saved := assignments.map fun a =>
    let name := String.ofList a.1
    (name, s.bindings.get? name)
  let (texts, s) := assignAll run true assignments s
  if !s.isRunning then s
  else Builtin.restoreLocals saved (inner (trace streams (texts ++ words) s))

def simple (run : Runner) (assignments : List (List Char × Word)) (words : List Word)
    (redirections : List Redirection) (s : Session) : Session :=
  let (fields, s) := commandFields run words [] s
  let streams := s.streams
  if !s.isRunning then s
  else
    let (opened, ready) := Redirection.applyAll run redirections s
    match fields with
    | [] =>
      if !opened then { ready with streams }
      else
        let (texts, after) := assignAll run false assignments ready
        let after := trace streams texts { after with streams }
        if after.isRunning then { after with status := after.substituted.getD 0 } else after
    | name :: arguments =>
      if Lookup.specialBuiltins.contains name then
        if !opened then
          if ready.isRunning then { ready with streams }.finish (.exited 2) else { ready with streams }
        else
          let (texts, after) := assignAll run false assignments ready
          let after := trace streams (texts ++ fields) after
          let after := if after.isRunning then Builtin.call run name arguments after else after
          if name == "exec" && arguments.isEmpty then after else { after with streams }
      else if !opened then { ready with streams }
      else
        let inner := match ready.functions.get? name with
          | some body => callFunction run body arguments
          | none =>
            if Lookup.isBuiltin name then Builtin.call run name arguments
            else execute run fields
        { withAssignments run streams assignments fields inner ready with streams }

/-- Runs a script line by line; `fuel` bounds the number of lines. -/
def script (run : Runner) : Nat → Source → Session → Session
  | 0, _, s => s
  | fuel + 1, source, s =>
    match { source with aliases := s.aliases }.next with
    | .error e => { s with line := e.line }.abort e.fault.text
    | .ok (none, _) => s
    | .ok (some c, rest) =>
      let s := run c s
      if s.isRunning then script run fuel rest s else s

def perform (run : Runner) (c : Command) (s : Session) : Session :=
  if !s.isRunning || s.option 'n' then s
  else match c with
    | .nothing => s
    | .simple line assignments words redirections =>
      Job.check run (simple run assignments words redirections { s with line, substituted := none })
    | .sequence _ _ => sequence run c s
    | .both first second =>
      let s := tested run first s
      if s.isRunning && s.status == 0 then run second s else s
    | .either first second =>
      let s := tested run first s
      if s.isRunning && s.status != 0 then run second s else s
    | .negated body =>
      let s := tested run body s
      if s.isRunning then { s with status := if s.status == 0 then 1 else 0 } else s
    | .pipeline stages => Job.check run (Job.pipeline run stages s)
    | .background body => Job.check run (Job.launch body s)
    | .subshell body => Job.check run (Job.inShell run (run body) s)
    | .conditional test yes no =>
      let s := tested run test s
      if !s.isRunning then s
      else if s.status == 0 then run yes s
      else run no { s with status := 0 }
    | .loop untilSuccess test body =>
      inLoop (repeatBody run untilSuccess test body maxTurns 0) s
    | .each name words body =>
      let (values, s) := match words with
        | some words => Expansion.allFields run words s
        | none => (s.parameters, s)
      if !s.isRunning then s
      else inLoop (repeatEach run (String.ofList name) body values) { s with status := 0 }
    | .select word cases =>
      let (text, s) := Expansion.wordText run word s
      if s.isRunning then choose run text.toList cases s else s
    | .define name body =>
      { s with functions := s.functions.insert (String.ofList name) body, status := 0 }
    | .redirected (.subshell body) redirections =>
      Job.check run (Job.inShell run (Redirection.around run redirections (run body)) s)
    | .redirected body redirections => Redirection.around run redirections (run body) s
    | .program words => execute run words s
    | .script text => script run (text.length + 1) { rest := text.toList } s
    | .settle => Job.settle run s

/-- Runs a command; `fuel` bounds how deeply commands are nested. A shell that nests them more
deeply runs out of memory. -/
def run : Nat → Runner
  | 0, _, s => s.finish (.killed 11)
  | fuel + 1, c, s => perform (run fuel) c s

/-- How deeply commands may be nested. -/
def maxDepth : Nat := 20000

end Interpreter

/-- Runs a command line in a new shell. The working directory is the shell's own. -/
def run (line : String) (files : Files) (environment : Record String) (input : List UInt8) :
    Outcome :=
  let directory := encode ("/" ++ "/".intercalate files.working)
  let start : Session :=
    { bindings := Interpreter.startVariables
        (environment.map fun (name, value) => (encode name, encode value)) directory
      directory, files
      opened := #[.source input, .sink ByteArray.empty, .sink ByteArray.empty] }
  let runner := Interpreter.run Interpreter.maxDepth
  let s : Session := Job.conclude runner (runner (.script (encode line)) start)
  { ending := s.outcome
    files := { s.files with working := files.working }
    input := s.unread 0
    output := (s.written 1).toList
    errors := (s.written 2).toList }

end StackVM.Shell
