import StackVM.Machine.Basic
import StackVM.Shell.Quoting

/-! # Commands

A command is a list of a verb and its arguments. Its result is kept as the last one.
-/

namespace StackVM

inductive ShellVerb where
  /-- The result says whether it succeeded. -/
  | succeeds
  /-- The result is what it wrote. -/
  | output
  /-- The result is what it wrote to the error stream. -/
  | errors
  /-- The result is its exit code. -/
  | code
deriving DecidableEq, Repr

def ShellVerb.connection : ShellVerb → World.Connection
  | .output => .captureOutput
  | .errors => .captureErrors
  | .succeeds | .code => .shared

inductive Verb where
  | print
  | stdout
  | stderr
  | stdin
  | error
  | time
  | date
  | sleep
  | clear
  | nothing
  | shell (verb : ShellVerb)
deriving DecidableEq, Repr

def Verb.ofName? : String → Option Verb
  | "print" => some .print
  | "stdout" => some .stdout
  | "stderr" => some .stderr
  | "stdin" => some .stdin
  | "error" => some .error
  | "time" | "systime" => some .time
  | "sysdate" => some .date
  | "sleep" => some .sleep
  | "clear" => some .clear
  | "." => some .nothing
  | "!" => some (.shell .succeeds)
  | "?" => some (.shell .output)
  | "?!" => some (.shell .errors)
  | "=" => some (.shell .code)
  | _ => none

/-- Removes a line break from the end. -/
def trimNewline (text : String) : String :=
  match text.toList.reverse with
  | '\n' :: '\r' :: rest => String.ofList rest.reverse
  | '\n' :: rest => String.ofList rest.reverse
  | _ => text

/-- The words of all arguments, separated by blanks. -/
def argumentText (arguments : List Value) : String :=
  " ".intercalate (arguments.flatMap Value.words)

namespace Machine

def finish (m : Machine) (result : Value) : Executed := .ok { m with last := result }

def write (m : Machine) (channel : Channel) (text : String) : Executed :=
  match m.world.write channel text with
  | (none, world) => { m with world }.finish .null
  | (some message, world) => .fail { m with world } (.io message)

/-- Reads a line of the input; null at its end. -/
def readInput (m : Machine) : Executed :=
  let (line, world) := m.world.readLine
  let m := { m with world }
  match line with
  | .none => m.finish .null
  | .text s => m.finish (.str (trimNewline s))
  | .malformed => .fail m (.io "stream did not contain valid UTF-8")
  | .refused message => .fail m (.io message)

/-- What becomes of a command once its process has ended. -/
def afterProcess (s : Settings) (line : Int) (verb : ShellVerb) (command : String)
    (ending : Except String Shell.Ending) (captured : List UInt8) (m : Machine) : Executed :=
  match ending, verb with
  | .error message, _ => .fail m (.io message)
  | .ok _, .output | .ok _, .errors =>
    m.finish (.str (trimNewline (Text.fromUtf8Lossy captured)))
  | .ok ending, .succeeds => m.finish (.bool (ending = .exited 0))
  | .ok (.exited code), .code => m.finish (.ofNat code)
  | .ok (.killed _), .code =>
    (m.warn s line ("Command terminated by signal: " ++ command)).finish .null

def runShell (s : Settings) (line : Int) (verb : ShellVerb) (command : String) (m : Machine) :
    Executed :=
  if command.toList.contains '\x00' then .fail m (.io "nul byte found in provided data")
  else
    let (ending, captured, world) := m.world.runProcess command verb.connection
    { m with world }.afterProcess s line verb command ending captured

def runVerb (s : Settings) (line : Int) (name : String) (verb : Verb) (arguments : List Value)
    (m : Machine) : Executed :=
  let text := argumentText arguments
  match verb with
  | .print => m.write .output (text ++ "\n")
  | .stdout => m.write .output text
  | .stderr => m.write .errors text
  | .stdin => m.readInput
  | .error => .fail { m with last := .null } (.raised text)
  | .time => m.finish (.num m.world.clock.secondOfDay)
  | .date =>
    let d := m.world.clock.date
    m.finish (.arr [.ofNat d.day, .ofNat d.month, .ofInt d.year])
  | .sleep | .nothing => m.finish .null
  | .clear => m.write .output "\x1b[2J\x1b[H"
  | .shell verb =>
    if s.sandboxed then .fail m (.sandboxViolation ("shell command '" ++ name ++ "'"))
    else m.runShell s line verb (Shell.commandLine arguments)

def runCommand (s : Settings) (line : Int) (m : Machine) : Executed :=
  let command := m.stack.peek.toList
  let m := { m with stack := m.stack.below }
  let name := (command.head?.map Value.text).getD ""
  match Verb.ofName? name with
  | some verb => m.runVerb s line name verb command.tail
  | none => .fail m (.raised ("Unknown command: " ++ name))

end Machine

end StackVM
