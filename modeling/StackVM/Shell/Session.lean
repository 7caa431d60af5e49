import StackVM.Shell.Numeral
import StackVM.Shell.Script
import StackVM.Shell.Stream

/-! # Sessions of the shell

All that commands read and change: files, variables, functions, streams, and how the run goes on.
-/

namespace StackVM.Shell

inductive Ending where
  | exited (code : Nat)
  | killed (signal : Nat)
deriving DecidableEq, Repr

/-- The status that tells how a process ended. -/
def Ending.status : Ending → Nat
  | .exited code => code
  | .killed signal => 128 + signal

/-- How the run goes on. -/
inductive Flow where
  | running
  /-- So many loops are left. -/
  | leaving (levels : Nat)
  /-- So many loops are left but for the last, which goes on. -/
  | continuing (levels : Nat)
  /-- A function returns. -/
  | returning
  | ended (ending : Ending)
deriving DecidableEq, Repr

structure Variable where
  value : Option String
  exported : Bool := false
  fixed : Bool := false

/-- What a shell passes on to the shells that it starts. -/
structure Setting where
  bindings : Record Variable := []
  /-- The positional parameters. -/
  parameters : List String := []
  /-- The name of the shell or the script. -/
  name : String := "sh"
  /-- What stands before messages, behind the name and the line. -/
  label : String := ""
  functions : Record Command := []
  aliases : Record String := []
  /-- The letters of the options that are set. -/
  options : List Char := []
  /-- The streams, by the numbers of what they are opened on. -/
  streams : List (Nat × Nat) := [(0, 0), (1, 1), (2, 2)]
  /-- The failure of the commands that run now ends nothing. -/
  tested : Bool := false
  line : Nat := 1
  /-- The permissions that new files do not get. -/
  mask : Nat := 0o022
  /-- The number of this process. -/
  process : Nat := 4242
  /-- How many functions and scripts are running. -/
  calls : Nat := 0
  /-- The values that local variables hide, for each running function. -/
  hidden : List (Record (Option Variable)) := []
  /-- The output is read by a process that may stop early. -/
  piped : Bool := false
  /-- The working directory as it was reached. -/
  directory : String := ""
  /-- The process of the last command that went to the background. -/
  background : Option Nat := none

/-- A command that waits to run in the background. -/
structure Work where
  command : Command
  setting : Setting
  working : List String

/-- A command in the background: it has yet to run, or has ended. -/
structure BackgroundJob where
  /-- The number under which it is listed. -/
  number : Nat
  process : Nat
  work : Option Work
  ending : Ending := .exited 0
  /-- Its end has been waited for. -/
  awaited : Bool := false

/-- A running shell. -/
structure Session extends Setting where
  files : Files
  opened : OpenTable
  /-- The status of the last command. -/
  status : Nat := 0
  flow : Flow := .running
  /-- How many loops are running. -/
  loops : Nat := 0
  /-- What to do at the end or on a signal. -/
  traps : Record String := []
  /-- The signals that have come and for which there is something to do. -/
  signals : List String := []
  jobs : List BackgroundJob := []
  /-- The number of the next process. -/
  nextProcess : Nat := 4243
  /-- The status of the last substituted command. -/
  substituted : Option Nat := none
  /-- Something could not be written to the output. -/
  unwritten : Bool := false
  /-- The argument with which `getopts` goes on, and how far it has come within the one before. -/
  optionIndex : Nat := 1
  optionOffset : Option Nat := none

namespace Session

def isRunning (s : Session) : Bool := s.flow == .running

/-- What a stream is opened on. -/
def stream? (s : Session) (stream : Nat) : Option Opened := do
  let number ← s.streams.lookup stream
  s.opened[number]?

/-- Changes what a stream is opened on. -/
def modifyStream (s : Session) (stream : Nat) (change : Opened → Opened) : Session :=
  match s.streams.lookup stream with
  | some number => { s with opened := s.opened.modify number change }
  | none => s

def write (s : Session) (stream : Nat) (bytes : ByteArray) : Attempt Session :=
  match s.streams.lookup stream with
  | none => .error .badDescriptor
  | some number =>
    match s.opened[number]? with
    | none => .error .badDescriptor
    | some (.sink old) =>
      let opened := s.opened.setIfInBounds number .directory
      .ok { s with opened := opened.setIfInBounds number (.sink (old ++ bytes)) }
    | some o => do
      let (files, o) ← o.write s.files bytes
      return { s with files, opened := s.opened.setIfInBounds number o }

/-- Writes a text to a stream; a failure is only noted. -/
def emit (s : Session) (stream : Nat) (text : String) : Session :=
  match s.write stream ⟨(toBytes text).toArray⟩ with
  | .ok s => s
  | .error _ => if stream == 1 && !text.isEmpty then { s with unwritten := true } else s

/-- The bytes that a stream has to offer. -/
def available (s : Session) (stream : Nat) : Attempt (List UInt8) :=
  match s.stream? stream with
  | some o => o.available s.files
  | none => .error .badDescriptor

/-- Opens something under a new number. -/
def addOpened (s : Session) (o : Opened) : Nat × Session :=
  (s.opened.size, { s with opened := s.opened.push o })

/-- Lets a stream be what is opened under a number, or closes it. -/
def setStream (s : Session) (stream : Nat) (number : Option Nat) : Session :=
  let others := s.streams.filter (·.1 != stream)
  { s with streams := match number with | some n => (stream, n) :: others | none => others }

def openStream (s : Session) (stream : Nat) (o : Opened) : Session :=
  let (number, s) := s.addOpened o
  s.setStream stream (some number)

/-- Reports an error of the shell itself. -/
def complain (s : Session) (message : String) (status : Nat) : Session :=
  { s.emit 2 (s.name ++ ": " ++ numeral s.line ++ ": " ++ s.label ++ message ++ "\n") with status }

def finish (s : Session) (ending : Ending) : Session :=
  { s with flow := .ended ending, status := ending.status }

/-- Reports an error that ends the shell. -/
def abort (s : Session) (message : String) : Session :=
  (s.complain message 2).finish (.exited 2)

def option (s : Session) (letter : Char) : Bool := s.options.contains letter

def setOption (s : Session) (letter : Char) (on : Bool) : Session :=
  let others := s.options.filter (· != letter)
  { s with options := if on then others ++ [letter] else others }

def value? (s : Session) (name : String) : Option String :=
  (s.bindings.get? name).bind (·.value)

/-- The value of a variable; empty if there is none. -/
def get (s : Session) (name : String) : String := (s.value? name).getD ""

def assign (s : Session) (name value : String) : Session :=
  let old := (s.bindings.get? name).getD { value := none }
  if old.fixed then s.abort (name ++ ": is read only")
  else
    let new := { old with value := some value, exported := old.exported || s.option 'a' }
    let s := { s with bindings := s.bindings.insert name new }
    if name == "OPTIND" then
      { s with optionIndex := max 1 (readNatural 10 0 value.toList).1, optionOffset := none }
    else s

/-- Changes the marks of a variable, which need not have a value. -/
def markVariable (s : Session) (name : String) (change : Variable → Variable) : Session :=
  let old := (s.bindings.get? name).getD { value := none }
  { s with bindings := s.bindings.insert name (change old) }

def environment (s : Session) : Record String :=
  s.bindings.filterMap fun (name, v) => if v.exported then v.value.map (name, ·) else none

/-- The letters of options in the order in which they are shown. -/
def optionOrder : List Char :=
  ['u', 'b', 'a', 'C', 'E', 'V', 'v', 'x', 's', 'n', 'm', 'i', 'I', 'f', 'e']

/-- Starts anew with the options among the parameters. -/
def restartOptions (s : Session) : Session := { s with optionIndex := 1, optionOffset := none }

/-- The value of a special or a positional parameter, or of a variable. -/
def parameter? (s : Session) (name : List Char) : Option String :=
  match name with
  | ['$'] => some (numeral s.process)
  | ['?'] => some (numeral s.status)
  | ['#'] => some (numeral s.parameters.length)
  | ['-'] => some (String.ofList (optionOrder.filter s.option))
  | ['!'] => s.background.map fun n => numeral n
  | name =>
    if name.all Char.isDigit then
      match readNatural 10 0 name with
      | (0, _) => some s.name
      | (n + 1, _) => s.parameters[n]?
    else s.value? (String.ofList name)

def workingPath (s : Session) : String := encode ("/" ++ "/".intercalate s.files.working)

/-- The status with which the shell ends if it ends now. -/
def outcome (s : Session) : Ending :=
  match s.flow with
  | .ended ending => ending
  | _ => .exited s.status

/-- What has been written to something that is open. -/
def written (s : Session) (number : Nat) : ByteArray :=
  match s.opened[number]? with
  | some (.sink bytes) => bytes
  | _ => ByteArray.empty

/-- What is left to be read of something that is open. -/
def unread (s : Session) (number : Nat) : List UInt8 :=
  match s.opened[number]? with
  | some (.source rest) => rest
  | _ => []

/-- Runs something in a shell of its own. What it does to files and open streams stays; variables,
functions, options and the working directory are as they were. A signal that was meant for this
shell ends it. -/
def isolate (inner : Session → Session) (s : Session) : Session :=
  let after := inner { s with
    loops := 0, signals := []
    jobs := s.jobs.map fun job => { job with work := none }
    traps := s.traps.filter fun t => t.2.isEmpty }
  { s with
    files := { after.files with working := s.files.working }
    opened := after.opened
    nextProcess := after.nextProcess
    status := after.outcome.status
    substituted := after.substituted
    flow := match after.flow with
      | .ended (.killed signal) => .ended (.killed signal)
      | _ => .running }

end Session

end StackVM.Shell
