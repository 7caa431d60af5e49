import StackVM.Calendar
import StackVM.Host.Basic
import StackVM.Number.Binary

/-! # The world of a run

The host, the clock and the standard streams. Input is taken in blocks, so that what has been taken
and not yet read is no longer there for other processes. Reading and writing may fail; which of the
coming operations will is part of the world.
-/

namespace StackVM

/-- A moment in universal time. -/
structure Clock where
  /-- Seconds since the start of 1970. -/
  seconds : Int
  nanoseconds : Nat := 0
deriving DecidableEq, Repr

namespace Clock

def secondOfDay (c : Clock) : Float :=
  Number.ofInt (c.seconds % 86400) + Number.ofNat c.nanoseconds / 1e9

def date (c : Clock) : Calendar.Date := Calendar.dateOf (c.seconds / 86400)

end Clock

/-- Why an operation on a stream fails, and what it does all the same. -/
structure Refusal where
  message : String
  /-- How many bytes pass before it fails. -/
  passed : Nat := 0
  /-- How many of the bytes behind them wait for the next write. -/
  kept : Nat := 0
deriving DecidableEq, Repr

/-- The streams that are written to. -/
inductive Channel where
  | output
  | errors
deriving DecidableEq, Repr

/-- The world of a run. -/
structure World where
  host : Host
  clock : Clock
  /-- How the coming operations on the streams fail; those that are not listed succeed. -/
  refusals : List (Option Refusal) := []
  /-- Input that has been taken and not yet read. -/
  taken : List UInt8 := []
  /-- The rest of the input. -/
  input : List UInt8 := []
  /-- Output that a failed write has left to the next one. -/
  pending : List UInt8 := []
  output : List UInt8 := []
  errors : List UInt8 := []

/-- A line of the input. -/
inductive Line where
  /-- There is no more input. -/
  | none
  /-- A text with the line break that ended it. -/
  | text (s : String)
  /-- Bytes that are no text. -/
  | malformed
  | refused (message : String)
deriving DecidableEq, Repr

namespace World

/-- Whether the next operation on a stream fails, and the world after it. -/
def answer (w : World) : Option Refusal × World :=
  (w.refusals.head?.join, { w with refusals := w.refusals.tail })

def blockSize : Nat := 8192

/-- The first line of bytes, with its line break, and the rest. -/
def splitLine (bytes : List UInt8) : List UInt8 × List UInt8 :=
  match bytes.dropWhile (· != 10) with
  | newline :: rest => (bytes.takeWhile (· != 10) ++ [newline], rest)
  | [] => (bytes, [])

/-- Reads a line that is there to be read. -/
def nextLine (w : World) : Line × World :=
  let (line, _) := splitLine (w.taken ++ w.input)
  let beyond := line.length - w.taken.length
  let blocks := (beyond + blockSize - 1) / blockSize * blockSize
  let w := { w with
    taken := if beyond = 0 then w.taken.drop line.length else (w.input.take blocks).drop beyond
    input := w.input.drop blocks }
  if line.isEmpty then (.none, w)
  else match Text.fromUtf8? line with
    | some s => (.text s, w)
    | none => (.malformed, w)

/-- Reads a line of the input. Nothing needs to be taken if the end of the line has been taken
before; what had been taken is lost if the stream fails. -/
def readLine (w : World) : Line × World :=
  if w.taken.contains 10 then w.nextLine
  else match w.answer with
    | (none, w) => w.nextLine
    | (some refusal, w) =>
      (.refused refusal.message, { w with taken := [], input := w.input.drop refusal.passed })

/-- Writes to a stream. Gives the message if the stream fails. -/
def write (w : World) (channel : Channel) (text : String) : Option String × World :=
  match channel, w.answer with
  | .output, (none, w) =>
    (none, { w with output := w.output ++ w.pending ++ Text.utf8 text, pending := [] })
  | .output, (some refusal, w) =>
    let bytes := w.pending ++ Text.utf8 text
    (some refusal.message, { w with
      output := w.output ++ bytes.take refusal.passed
      pending := (bytes.drop refusal.passed).take refusal.kept })
  | .errors, (none, w) => (none, { w with errors := w.errors ++ Text.utf8 text })
  | .errors, (some refusal, w) =>
    (some refusal.message,
      { w with errors := w.errors ++ (Text.utf8 text).take refusal.passed })

/-- The end of a run: what a failed write has left is written if it can be. -/
def close (w : World) : World := (w.write .output "").2

def print (w : World) (text : String) : World := { w with output := w.output ++ Text.utf8 text }

def printError (w : World) (text : String) : World :=
  { w with errors := w.errors ++ Text.utf8 text }

/-- How the streams of another process are connected to those of the run. -/
inductive Connection where
  /-- All streams are shared. -/
  | shared
  /-- The output is captured; the input is empty. -/
  | captureOutput
  /-- The error stream is captured; input and output are empty. -/
  | captureErrors
deriving DecidableEq, Repr

/-- Runs a command line in another process. Gives how it ended and what was captured. -/
def runProcess (w : World) (line : String) (c : Connection) :
    Except String Shell.Ending × List UInt8 × World :=
  let input := if c = .shared then w.input else []
  let result := w.host.process ⟨line, w.host.files, w.host.environment, input⟩
  let host := { w.host with files := result.files }
  match c with
  | .shared =>
    (result.ending, [], { w with
      host, input := result.input
      output := w.output ++ result.output, errors := w.errors ++ result.errors })
  | .captureOutput =>
    (result.ending, result.output, { w with host, errors := w.errors ++ result.errors })
  | .captureErrors => (result.ending, result.errors, { w with host })

end World

end StackVM
