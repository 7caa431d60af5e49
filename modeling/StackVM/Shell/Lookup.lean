import StackVM.Shell.Session
import StackVM.Shell.Utility.Paths

/-! # Finding commands

A name stands for a special builtin, a function, another builtin or a program, in this order.
Programs are files with the permission to be run, looked for along a path.
-/

namespace StackVM.Shell.Lookup

/-- The builtins that keep the variables set before them and whose errors end the shell. -/
def specialBuiltins : List String :=
  [".", ":", "break", "continue", "eval", "exec", "exit", "export", "local", "readonly", "return",
    "set", "shift", "times", "trap", "unset"]

/-- The other builtins. -/
def regularBuiltins : List String :=
  ["[", "alias", "bg", "cd", "chdir", "command", "echo", "false", "fg", "getopts", "hash", "jobs",
    "kill", "printf", "pwd", "read", "test", "true", "type", "ulimit", "umask", "unalias", "wait"]

def isBuiltin (name : String) : Bool :=
  specialBuiltins.contains name || regularBuiltins.contains name

/-- What is found under the name of a program. -/
inductive Program where
  /-- A utility. -/
  | utility (name path : String)
  /-- A script, with its path, its first line if that names an interpreter, and its text. -/
  | script (path : String) (interpreter : List String) (text : String)
  /-- There is something that cannot be run. -/
  | refused
  | missing

/-- Someone may run the file. -/
def isExecutable (mode : Nat) : Bool := mode &&& 0o111 != 0

/-- The words of the first line of a script that names an interpreter. -/
def interpreterOf (text : String) : List String :=
  match text.toList with
  | '#' :: '!' :: rest =>
    let line := rest.takeWhile (· != '\n')
    ((line.splitBy fun a b => isSpace a == isSpace b).filter fun part =>
      !isSpace (part.headD ' ')).map String.ofList
  | _ => []

/-- What a path leads to as a program. -/
def programAt (s : Session) (path : String) : Program :=
  match s.files.entry (decode path) with
  | .ok (.file number) =>
    let body := s.files.body number
    if !isExecutable body.mode then .refused
    else match body.program with
      | some name => .utility name path
      | none =>
        let text := ofBytes body.bytes.toList
        .script path (interpreterOf text) text
  | .ok _ => .refused
  | .error .denied => .refused
  | .error _ => .missing

def directories (s : Session) : List String :=
  let path := (s.value? "PATH").getD
    "/usr/local/sbin:/usr/local/bin:/usr/sbin:/usr/bin:/sbin:/bin"
  (path.splitOn ":").map fun directory => if directory.isEmpty then "." else directory

/-- The paths under which a program may be. -/
def candidates (s : Session) (name : String) : List String :=
  if name.toList.contains '/' then [name] else (directories s).map fun d => Paths.join d name

/-- The first of several paths that leads to a program; failing that, whether one could not be
run. -/
def firstProgram (s : Session) : List String → Program → Program
  | [], found => found
  | path :: rest, found =>
    match programAt s path with
    | .missing => firstProgram s rest found
    | .refused =>
      let isFile := match s.files.entry? (decode path) with
        | some (.file _) => true
        | _ => rest.isEmpty
      firstProgram s rest (if isFile then .refused else found)
    | program => program

def program (s : Session) (name : String) : Program :=
  if name.isEmpty then .missing else firstProgram s (candidates s name) .missing

def programPath? (s : Session) (name : String) : Option String :=
  match program s name with
  | .utility _ path | .script path _ _ => some path
  | _ => none

end StackVM.Shell.Lookup
