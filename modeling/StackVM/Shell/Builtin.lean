import StackVM.Shell.Job
import StackVM.Shell.Source
import StackVM.Shell.Spawning

/-! # Builtins -/

namespace StackVM.Shell.Builtin

/-- The file that a name leads to, for a script that runs in this shell. -/
def scriptPath? (s : Session) (name : String) : Option String :=
  (Lookup.candidates s name).find? fun path =>
    match s.files.entry? (decode path) with
    | some e => !e.isDirectory
    | none => false

def sourceFile (run : Runner) (arguments : List String) (s : Session) : Session :=
  match arguments with
  | [] => s.complain ".: filename argument required" 2
  | name :: _ =>
    match scriptPath? s name with
    | none =>
      if name.toList.contains '/' then s.abort (".: cannot open " ++ name ++ ": No such file")
      else s.abort (".: " ++ name ++ ": not found")
    | some path =>
      match s.files.read (decode path) with
      | .error e => s.abort (".: cannot open " ++ name ++ ": " ++ e.text)
      | .ok bytes =>
        let after := run (.script (ofBytes bytes.toList))
          { s with status := 0, calls := s.calls + 1, label := path ++ ": " }
        let flow := if after.flow == .returning then .running else after.flow
        { after with calls := s.calls, flow }

/-- What a name stands for, in a sentence. -/
def describe (s : Session) (name : String) (tracked : Bool) : Option String :=
  if Source.keywords.contains name then some (name ++ " is a shell keyword")
  else match s.aliases.get? name with
    | some text => some (name ++ " is an alias for " ++ text)
    | none =>
      if Lookup.specialBuiltins.contains name then some (name ++ " is a special shell builtin")
      else if s.functions.has name then some (name ++ " is a shell function")
      else if Lookup.isBuiltin name then some (name ++ " is a shell builtin")
      else (Lookup.programPath? s name).map fun path =>
        if name.toList.contains '/' || !tracked then name ++ " is " ++ path
        else name ++ " is a tracked alias for " ++ path

/-- What would be run under a name. -/
def resolved (s : Session) (name : String) : Option String :=
  if Source.keywords.contains name then some name
  else match s.aliases.get? name with
    | some text => some ("alias " ++ name ++ "=" ++ quoteText text)
    | none =>
      if Lookup.isBuiltin name || s.functions.has name then some name
      else Lookup.programPath? s name

/-- Says what names stand for. -/
def type (arguments : List String) (s : Session) : Session :=
  arguments.foldl (fun s name =>
    match describe s name false with
    | some text => s.emit 1 (text ++ "\n")
    | none => { s.emit 1 (name ++ ": not found\n") with status := 127 }) { s with status := 0 }

/-- Ends the shell with what a program does. -/
def replaceShell (run : Runner) (arguments : List String) (s : Session) : Session :=
  match arguments with
  | [] => { s with status := 0 }
  | name :: _ =>
    let failure := fun (reason : String) (status : Nat) =>
      (s.complain ("exec: " ++ name ++ ": " ++ reason) status).finish (.exited status)
    match Lookup.program s name with
    | .missing => failure "not found" 127
    | .refused => failure "Permission denied" 126
    | _ =>
      let after := run (.program arguments) s
      { after.finish (.exited after.status) with traps := after.traps.erase "EXIT" }

/-- Looks for programs. -/
def hash (arguments : List String) (s : Session) : Session :=
  (arguments.filter (· != "-r")).foldl (fun s name =>
    if Lookup.isBuiltin name || s.functions.has name || (Lookup.programPath? s name).isSome then s
    else s.complain ("hash: " ++ name ++ ": not found") 1) { s with status := 0 }

/-- Shows limits; there are none. -/
def ulimit (arguments : List String) (s : Session) : Session :=
  let shown := if arguments.all (·.startsWith "-") then s.emit 1 "unlimited\n" else s
  { shown with status := 0 }

/-- A builtin that is a utility, too. -/
def asUtility (utility : Utility) (name : String) (arguments : List String) (s : Session) : Session :=
  let label := s.name ++ ": " ++ numeral s.line ++ ": " ++ name
  let call := Spawning.callOf s name label arguments
  Spawning.absorb (fun _ s => { s with unwritten := true }) (utility call) s

/-- Runs a builtin other than `command`. -/
def perform (run : Runner) (name : String) (arguments : List String) (s : Session) : Session :=
  match name with
  | ":" | "true" => { s with status := 0 }
  | "false" => { s with status := 1 }
  | "." => sourceFile run arguments s
  | "alias" => makeAlias arguments s
  | "bg" | "fg" => s.complain (name ++ ": No current job") 2
  | "break" => leaveLoops .leaving name arguments s
  | "cd" | "chdir" => cd arguments s
  | "continue" => leaveLoops .continuing name arguments s
  | "echo" => asUtility (fun c => c.print (Printing.echo c.arguments)) name arguments s
  | "eval" =>
    run (.script (" ".intercalate arguments)) { s with status := 0, label := "eval: " }
  | "exec" => replaceShell run arguments s
  | "exit" => exit arguments s
  | "export" => exportVariables arguments s
  | "getopts" => getopts arguments s
  | "hash" => hash arguments s
  | "jobs" => listJobs arguments s
  | "kill" => kill arguments s
  | "local" => makeLocal arguments s
  | "printf" => asUtility Printing.printf name arguments s
  | "pwd" => pwd arguments s
  | "read" => read arguments s
  | "readonly" => protect arguments s
  | "return" => returnFrom arguments s
  | "set" => set arguments s
  | "shift" => shift arguments s
  | "test" | "[" => asUtility Condition.test name arguments s
  | "times" =>
    let line := "0m0.000000s 0m0.000000s\n"
    { s.emit 1 (line ++ line) with status := 0 }
  | "trap" => trap arguments s
  | "type" => type arguments s
  | "ulimit" => ulimit arguments s
  | "umask" => umask arguments s
  | "unalias" => removeAlias arguments s
  | "unset" => unset arguments s
  | "wait" => Job.wait run arguments s
  | _ => s

/-- Words without those in front that only say that no function is meant. -/
def withoutPrefixes : List String → List String
  | "command" :: rest | "-p" :: rest | "--" :: rest => withoutPrefixes rest
  | words => words

/-- Runs a command that is not a function, or says what it is. -/
def runPlain (run : Runner) (arguments : List String) (s : Session) : Session :=
  match withoutPrefixes arguments with
  | [] => { s with status := 0 }
  | "-v" :: name :: _ =>
    match resolved s name with
    | some text => { s.emit 1 (text ++ "\n") with status := 0 }
    | none => { s with status := 127 }
  | "-V" :: name :: _ =>
    match describe s name true with
    | some text => { s.emit 1 (text ++ "\n") with status := 0 }
    | none => { s.emit 1 (name ++ ": not found\n") with status := 127 }
  | first :: rest =>
    if Lookup.isBuiltin first then
      let after := perform run first rest s
      let forgiven := after.flow == .ended (.exited 2) && !(["exit", "exec", "eval"].contains first)
      if forgiven then { after with flow := .running } else after
    else run (.program (first :: rest)) s

/-- Runs a builtin. What it could not write is an error. -/
def call (run : Runner) (name : String) (arguments : List String) (s : Session) : Session :=
  let start := { s with unwritten := false }
  let after := if name == "command" then runPlain run arguments start
    else perform run name arguments { start with label := "" }
  let after := if after.unwritten then
      { after.complain (name ++ ": " ++ name ++ ": I/O error") (after.status ||| 1) with
        unwritten := false }
    else after
  { after with label := s.label }

end StackVM.Shell.Builtin
