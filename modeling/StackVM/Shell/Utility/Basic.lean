import StackVM.Host.Files
import StackVM.Shell.Bytes
import StackVM.Shell.Numeral

/-! # Utilities

A utility is a program that reads its arguments, its input and files, and writes an output. It knows
nothing of the shell.
-/

namespace StackVM.Shell

/-- The call of a utility. -/
structure Call where
  name : String
  /-- What stands before its messages. -/
  label : String
  arguments : List String
  files : Files
  /-- What can be read from the standard input. -/
  input : String := ""
  /-- Why the standard input cannot be read. -/
  inputFault : Option PathError := none
  /-- What was read too far can be given back. -/
  seekable : Bool := false
  environment : Record String := []
  /-- The permissions that new files do not get. -/
  mask : Nat := 0o022

/-- A text that a utility writes to its output, or to its errors. -/
structure Chunk where
  text : String
  toErrors : Bool := false

/-- What a utility did. -/
structure Report where
  files : Files
  /-- What it wrote, the latest first. -/
  chunks : List Chunk := []
  status : Nat := 0
  /-- How many bytes of the input it took. -/
  taken : Nat := 0

abbrev Utility := Call → Report

namespace Report

def print (r : Report) (text : String) : Report :=
  if text.isEmpty then r else { r with chunks := ⟨text, false⟩ :: r.chunks }

/-- Adds a message about an error. -/
def warn (r : Report) (label message : String) (status : Nat) : Report :=
  { r with chunks := ⟨label ++ ": " ++ message ++ "\n", true⟩ :: r.chunks, status }

end Report

namespace Call

def quiet (c : Call) : Report := { files := c.files }

def print (c : Call) (output : String) : Report := c.quiet.print output

def takeAll (c : Call) (r : Report) : Report := { r with taken := c.input.length }

def fail (c : Call) (status : Nat) (message : String) : Report := c.quiet.warn c.label message status

/-- The path stands for the standard input. -/
def isInput (path : String) : Bool := path == "-" || path == "/dev/stdin"

def read (c : Call) (path : String) : Attempt String := do
  if isInput path then
    match c.inputFault with
    | some e => .error e
    | none => return c.input
  else match ← c.files.entry (decode path) with
    | .pipe number => return ofBytes (c.files.body number).bytes.toList
    | e => return ofBytes (← c.files.content e).toList

end Call

/-- Options and operands. -/
structure Arguments where
  options : List (Char × String) := []
  operands : List String := []

namespace Arguments

def has (a : Arguments) (letter : Char) : Bool := a.options.any (·.1 == letter)

/-- The value of the last such option. -/
def value? (a : Arguments) (letter : Char) : Option String :=
  (a.options.reverse.find? (·.1 == letter)).map (·.2)

def values (a : Arguments) (letter : Char) : List String :=
  a.options.filterMap fun o => if o.1 == letter then some o.2 else none

/-- The operands, or the standard input if there are none. -/
def sources (a : Arguments) : List String := if a.operands.isEmpty then ["-"] else a.operands

def add (letter : Char) (value : String) (a : Arguments) : Arguments :=
  { a with options := (letter, value) :: a.options }

def operand (text : String) (a : Arguments) : Arguments :=
  { a with operands := text :: a.operands }

/-- How the options of a utility are written: letters without and with a value, and long names. -/
structure Shape where
  plain : String := ""
  valued : String := ""
  long : List (String × Char) := []
  /-- Operands end the options. -/
  strict : Bool := false
  /-- Messages are those of the shell. -/
  builtin : Bool := false

/-- The letters of one argument behind its dash; an option with a value takes the rest of the
argument, or else the next one. -/
def cluster (shape : Shape) : List Char → List String → Except String (List (Char × String) × List String)
  | [], next => .ok ([], next)
  | c :: rest, next =>
    if shape.plain.toList.contains c then do
      let (more, next) ← cluster shape rest next
      return ((c, "") :: more, next)
    else if shape.valued.toList.contains c then
      if !rest.isEmpty then .ok ([(c, String.ofList rest)], next)
      else match next with
        | value :: next => .ok ([(c, value)], next)
        | [] =>
          if shape.builtin then .error ("No arg for -" ++ String.ofList [c] ++ " option")
          else .error ("option requires an argument -- '" ++ String.ofList [c] ++ "'")
    else if shape.builtin then .error ("Illegal option -" ++ String.ofList [c])
    else .error ("invalid option -- '" ++ String.ofList [c] ++ "'")

/-- A long option without its dashes. -/
def longOption (shape : Shape) (text : List Char) (next : List String) :
    Except String ((Char × String) × List String) :=
  let name := String.ofList (text.takeWhile (· != '='))
  let value := text.drop (name.length + 1)
  let found := match shape.long.find? (·.1 == name) with
    | some l => some l
    | none => shape.long.find? fun l => l.1.startsWith name
  match found with
  | none => .error ("unrecognized option '--" ++ name ++ "'")
  | some (_, letter) =>
    if shape.valued.toList.contains letter && text.length == name.length then
      match next with
      | value :: next => .ok ((letter, value), next)
      | [] => .error ("option '--" ++ name ++ "' requires an argument")
    else .ok ((letter, String.ofList value), next)

/-- Reads arguments; `fuel` bounds their number. -/
def readFrom (shape : Shape) : Nat → List String → Except String Arguments
  | 0, _ => .ok {}
  | _, [] => .ok {}
  | fuel + 1, argument :: rest =>
    match argument.toList with
    | ['-', '-'] => .ok { operands := rest }
    | '-' :: '-' :: name =>
      if shape.builtin then .error "Illegal option --"
      else do
        let (o, rest) ← longOption shape name rest
        return (← readFrom shape fuel rest).add o.1 o.2
    | '-' :: c :: letters => do
      let (os, rest) ← cluster shape (c :: letters) rest
      let a ← readFrom shape fuel rest
      return { a with options := os ++ a.options }
    | _ =>
      if shape.strict then .ok { operands := argument :: rest }
      else do return (← readFrom shape fuel rest).operand argument

def read (shape : Shape) (arguments : List String) : Except String Arguments :=
  readFrom shape (arguments.length + 1) arguments

end Arguments

/-- Runs with options, or fails because they are wrong. -/
def Call.withArguments (c : Call) (shape : Arguments.Shape) (status : Nat)
    (run : Arguments → Report) : Report :=
  match Arguments.read shape c.arguments with
  | .ok a => run a
  | .error message =>
    { c.quiet with
      status
      chunks := [⟨c.label ++ ": " ++ message ++ "\nTry '" ++ c.label ++
        " --help' for more information.\n", true⟩] }

/-- Reads sources one after the other and goes on with each; the input can be read only once. What
cannot be read is described. -/
def Call.eachSourceOr (c : Call) (describe : String → PathError → String) (sources : List String)
    (start : Report) (step : Report → String → String → Report) : Report :=
  sources.foldl (fun r path =>
    if Call.isInput path && c.inputFault.isNone then
      let text := String.ofList (c.input.toList.drop r.taken)
      step { r with taken := c.input.length } path text
    else match c.read path with
      | .ok text => step r path text
      | .error e => r.warn c.label (describe path e) 1) start

/-- Reads sources one after the other and goes on with each. -/
def Call.eachSource (c : Call) : List String → Report → (Report → String → String → Report) →
    Report :=
  c.eachSourceOr fun path e => path ++ ": " ++ e.text

/-- All sources one after the other, and a report with what went wrong. -/
def Call.gather (c : Call) (sources : List String) : String × Report :=
  let r := c.eachSource sources c.quiet fun r _ text => r.print text
  (String.join ((r.chunks.filter (!·.toErrors)).reverse.map (·.text)),
    { r with chunks := r.chunks.filter (·.toErrors) })

def linesOf (text : String) : List String :=
  let parts := text.splitOn "\n"
  if parts.getLast? == some "" then parts.dropLast else parts

/-- The lines of a text, each with its line break; the last one may lack it. -/
def fullLines (text : String) : List String :=
  let parts := text.splitOn "\n"
  let ended := (parts.dropLast).map (· ++ "\n")
  match parts.getLast? with
  | some "" | none => ended
  | some last => ended ++ [last]

/-- Lines with their line breaks. -/
def unlines (lines : List String) : String := String.join (lines.map (· ++ "\n"))

end StackVM.Shell
