import StackVM.Shell.Builtin.Processes
import StackVM.Shell.Finding
import StackVM.Shell.Utility.Facts
import StackVM.Shell.Utility.Registry

/-! # Utilities that run other programs -/

namespace StackVM.Shell.Spawning

def fail (s : Session) (name message : String) (status : Nat) : Session :=
  { s.emit 2 (name ++ ": " ++ message ++ "\n") with status }

/-- Runs a program, or reports under another name that it cannot be run. -/
def start (run : Runner) (name : String) (words : List String) (s : Session) : Session :=
  let program := words.headD ""
  let shown := if name == "xargs" then program else Paths.quoted program
  match Lookup.program s program with
  | .missing => fail s name (shown ++ ": No such file or directory") 127
  | .refused => fail s name (shown ++ ": Permission denied") 126
  | _ => run (.program words) s

def callOf (s : Session) (name label : String) (arguments : List String) : Call where
  name
  label
  arguments
  files := s.files
  input := match s.available 0 with
    | .ok bytes => ofBytes bytes
    | .error _ => ""
  inputFault := match s.available 0 with
    | .ok _ => none
    | .error e => some e
  seekable := (s.stream? 0).any Opened.isSeekable
  environment := s.environment
  mask := s.mask

/-- Writes what a utility wrote; `failed` deals with an output that cannot be written. -/
def emitChunks (failed : PathError → Session → Session) : List Chunk → Session → Session
  | [], s => s
  | chunk :: rest, s =>
    if chunk.toErrors then emitChunks failed rest (s.emit 2 chunk.text)
    else match s.write 1 ⟨(toBytes chunk.text).toArray⟩ with
      | .ok s => emitChunks failed rest s
      | .error e => failed e s

/-- Takes up what a utility did. -/
def absorb (failed : PathError → Session → Session) (r : Report) (s : Session) : Session :=
  let s := { s with files := { r.files with working := s.files.working }, status := r.status }
  emitChunks failed r.chunks.reverse (s.modifyStream 0 (Opened.advance r.taken))

def runUtility (utility : Utility) (name label : String) (arguments : List String) (s : Session) :
    Session :=
  absorb (fun e s => fail s label ("write error: " ++ e.text) 1)
    (utility (callOf s name label arguments)) s

/-- Runs something with other variables, which are as before afterwards. -/
def withVariables (bindings : Record Variable) (inner : Session → Session) (s : Session) : Session :=
  { inner { s with bindings } with bindings := s.bindings }

/-- The variables and the command of the arguments of `env`; `fuel` bounds their number. -/
def readEnv : Nat → List String → Record Variable → String × Record Variable × List String
  | 0, rest, bindings => ("\n", bindings, rest)
  | _, [], bindings => ("\n", bindings, [])
  | fuel + 1, first :: rest, bindings =>
    match first, rest with
    | "-i", rest | "-", rest | "--ignore-environment", rest => readEnv fuel rest []
    | "-0", rest =>
      let (_, bindings, rest) := readEnv fuel rest bindings
      ("\x00", bindings, rest)
    | "-u", name :: rest => readEnv fuel rest (bindings.erase name)
    | "--", rest => readEnv fuel rest bindings
    | first, rest =>
      match Builtin.splitAssignment first with
      | (name, some value) =>
        readEnv fuel rest (bindings.insert name { value := some value, exported := true })
      | (_, none) => ("\n", bindings, first :: rest)

def env (run : Runner) (arguments : List String) (s : Session) : Session :=
  let exported := s.bindings.filter (·.2.exported)
  let (ending, bindings, words) := readEnv (arguments.length + 1) arguments exported
  if words.isEmpty then
    let t := { s with bindings }
    { s.emit 1 (String.join (t.environment.map fun (name, value) =>
        name ++ "=" ++ value ++ ending)) with status := 0 }
  else withVariables bindings (start run "env" words) s

/-- How the input of `xargs` is cut into arguments. -/
inductive Cutting where
  | words
  | lines
  | separated (mark : Char)

/-- Words in quotes or not; `current` is the word that is being read, in reverse. -/
def xargsWords (quote : Option Char) : List Char → Option (List Char) → Except String (List String)
  | [], current =>
    match quote with
    | some '\\' => .ok (current.toList.map fun w => String.ofList w.reverse)
    | some q => .error ("unmatched " ++ (if q == '"' then "double" else "single") ++
        " quote; by default quotes are special to xargs unless you use the -0 option")
    | none => .ok (current.toList.map fun w => String.ofList w.reverse)
  | c :: rest, current =>
    match quote with
    | some '\\' => xargsWords none rest (some (c :: current.getD []))
    | some q =>
      if c == q then xargsWords none rest (some (current.getD []))
      else if c == '\n' then
        .error ("unmatched " ++ (if q == '"' then "double" else "single") ++
          " quote; by default quotes are special to xargs unless you use the -0 option")
      else xargsWords quote rest (some (c :: current.getD []))
    | none =>
      if c == ' ' || c == '\t' || c == '\n' then do
        let more ← xargsWords none rest none
        return current.toList.map (fun w => String.ofList w.reverse) ++ more
      else if c == '\'' || c == '"' || c == '\\' then
        xargsWords (some c) rest (if c == '\\' then current else some (current.getD []))
      else xargsWords none rest (some (c :: current.getD []))

def cut (cutting : Cutting) (input : String) : Except String (List String) :=
  match cutting with
  | .words => xargsWords none input.toList none
  | .lines => do
    let lines := (linesOf input).map fun line =>
      String.ofList (line.toList.dropWhile fun c => c == ' ' || c == '\t')
    let texts ← (lines.filter (!·.isEmpty)).mapM fun line =>
      xargsWords none (line.toList.map fun c => if c == ' ' || c == '\t' then '\x01' else c) none
    return texts.map fun words => String.ofList ((" ".intercalate words).toList.map fun c =>
      if c == '\x01' then ' ' else c)
  | .separated mark =>
    let parts := input.toList.splitOn mark
    let parts := if parts.getLast? == some [] then parts.dropLast else parts
    .ok (parts.map String.ofList)

/-- The status of `xargs` after a run of a program. -/
def xargsStatus (before status : Nat) : Nat :=
  if status == 0 then before
  else if status == 255 then 124
  else if status == 126 || status == 127 then status
  else if 128 < status then 125
  else 123

/-- Runs a program for each of several lists of arguments, which are shown first if `told`. -/
def runEach (run : Runner) (told : Bool) (words : List (List String)) (s : Session) : Session :=
  let (s, status) := words.foldl (fun ((s : Session), (status : Nat)) words =>
    if 124 ≤ status then (s, status)
    else
      let s := if told then s.emit 2 (" ".intercalate (words.map shown) ++ "\n") else s
      let s := start run "xargs" words s
      let s := if s.status == 255 then
          s.emit 2 ("xargs: " ++ words.headD "" ++ ": exited with status 255; aborting\n") else s
      (s, xargsStatus status s.status)) (s, 0)
  { s with status }
where
  /-- A word as it is shown. -/
  shown (word : String) : String :=
    let isPlain := fun (c : Char) => c.isAlphanum || "%+,-./:=@_^".toList.contains c
    if !word.isEmpty && word.toList.all isPlain then word else Paths.quoted word

/-- Runs a program with arguments from the input. -/
def xargs (run : Runner) (arguments : List String) (s : Session) : Session :=
  let shape : Arguments.Shape :=
    { plain := "0rtpxo", valued := "nILdPsEaeil", strict := true
      long := [("null", '0'), ("no-run-if-empty", 'r'), ("max-args", 'n'), ("replace", 'I'),
        ("max-lines", 'L'), ("delimiter", 'd'), ("max-procs", 'P'), ("verbose", 't'),
        ("arg-file", 'a')] }
  match Arguments.read shape arguments with
  | .error message => fail s "xargs" message 1
  | .ok a =>
    let command := if a.operands.isEmpty then ["echo"] else a.operands
    let bytes := match a.value? 'a' with
      | some path => (s.files.read (decode path)).map ByteArray.toList
      | none => s.available 0
    let input := ofBytes ((bytes.toOption).getD [])
    let cutting : Cutting :=
      if a.has '0' then .separated '\x00'
      else match a.value? 'd' with
        | some text => .separated (match text.toList with
          | ['\\', 'n'] => '\n'
          | ['\\', 't'] => '\t'
          | ['\\', '0'] => '\x00'
          | c :: _ => c
          | [] => '\x00')
        | none => if a.has 'I' then .lines else .words
    match cut cutting input with
    | .error message => fail s "xargs" message 1
    | .ok items =>
      let taken := s.modifyStream 0 (Opened.advance input.length)
      let streams := taken.streams
      let ready := taken.openStream 0 (.device .null)
      let number := fun (letter : Char) => (a.value? letter).map fun t =>
        max (readNatural 10 0 t.toList).1 1
      let all : List (List String) := match a.value? 'I' with
        | some mark => items.map fun item =>
            command.map fun word => item.intercalate (word.splitOn mark)
        | none =>
          match number 'n', number 'L' with
          | some n, _ => (Copying.chunksOf n (items.length + 1) items).map (command ++ ·)
          | none, some n =>
            let lines := (linesOf input).filterMap fun line =>
              match xargsWords none line.toList none with
              | .ok [] => none
              | .ok words => some words
              | .error _ => none
            (Copying.chunksOf n (lines.length + 1) lines).map fun g => command ++ g.flatten
          | none, none => if items.isEmpty then [] else [command ++ items]
      let all := if all.isEmpty && !a.has 'r' && !a.has 'I' then [command] else all
      { runEach run (a.has 't') all ready with streams }

/-- The arguments behind options that have no effect here. -/
def dropOptions (valued : List String) : List String → List String
  | first :: rest =>
    if first == "--" then rest
    else if valued.contains first then dropOptions valued (rest.drop 1)
    else if first.startsWith "-" then dropOptions valued rest
    else first :: rest
  | [] => []
termination_by words => words.length

/-- Runs a program for a limited time. -/
def timeout (run : Runner) (arguments : List String) (s : Session) : Session :=
  match dropOptions ["-k", "-s", "--signal", "--kill-after"] arguments with
  | duration :: word :: words =>
    if Facts.isDuration duration then start run "timeout" (word :: words) s
    else fail s "timeout" ("invalid time interval " ++ Paths.quoted duration ++
      "\nTry 'timeout --help' for more information.") 125
  | _ => fail s "timeout" "missing operand\nTry 'timeout --help' for more information." 125

/-- How a shell is called. -/
structure Invocation where
  /-- The letters of the options that are set. -/
  options : List Char := []
  command : Bool := false
  fromInput : Bool := false
  operands : List String := []

def readInvocation : Nat → List String → Invocation → Except String Invocation
  | 0, rest, i => .ok { i with operands := rest }
  | _, [], i => .ok i
  | fuel + 1, first :: rest, i =>
    match first.toList with
    | ['-', '-'] | ['-'] => .ok { i with operands := rest }
    | sign :: 'o' :: [] =>
      match sign == '-' || sign == '+', rest with
      | true, name :: rest =>
        match Builtin.optionNames.lookup name with
        | some letter => readInvocation fuel rest (change i sign letter)
        | none => .error ("Illegal option -o " ++ name)
      | _, _ => .ok { i with operands := first :: rest }
    | sign :: c :: letters =>
      if sign == '-' || sign == '+' then
        match (c :: letters).find? fun c => !"abcCefhiIlmnpsuvxVE".toList.contains c with
        | some c => .error ("Illegal option -" ++ String.ofList [c])
        | none => readInvocation fuel rest ((c :: letters).foldl (fun i c => change i sign c) i)
      else .ok { i with operands := first :: rest }
    | _ => .ok { i with operands := first :: rest }
where
  /-- Sets or clears an option. -/
  change (i : Invocation) (sign letter : Char) : Invocation :=
    match letter with
    | 'c' => { i with command := true }
    | 's' => { i with fromInput := true, options := i.options ++ ['s'] }
    | letter =>
      if sign == '-' then { i with options := i.options ++ [letter] }
      else { i with options := i.options.filter (· != letter) }

end StackVM.Shell.Spawning
