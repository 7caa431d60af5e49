import StackVM.Host.Files
import StackVM.Shell.Bytes

/-! # Open files and pipes

What is open has a number, under which several streams may share it, together with the position in a
file. What is written to a pipe is collected, and can be read when its writer is done.
-/

namespace StackVM.Shell

/-- Something that has been opened. -/
inductive Opened where
  /-- The rest of what can be read from a pipe. -/
  | source (rest : List UInt8)
  /-- What has been written to a pipe. -/
  | sink (bytes : ByteArray)
  /-- A file with the position in it; at its end if it is written by appending. -/
  | file (body : Nat) (position : Nat) (append readable writable : Bool)
  /-- A named pipe that is written to. -/
  | pipe (body : Nat)
  | directory
  | device (d : Device)
deriving Inhabited

/-- What is open, by its numbers. -/
abbrev OpenTable := Array Opened

namespace Opened

def available (fs : Files) : Opened → Attempt (List UInt8)
  | .source rest => .ok rest
  | .sink _ | .pipe _ => .error .badDescriptor
  | .file body position _ readable _ =>
    if readable then .ok (((fs.body body).bytes.extract position (fs.body body).bytes.size).toList)
    else .error .badDescriptor
  | .directory => .error .isDirectory
  | .device d => (fs.content (.device d)).map ByteArray.toList

/-- Moves on by some bytes that have been read. -/
def advance (n : Nat) : Opened → Opened
  | .source rest => .source (rest.drop n)
  | .file body position append readable writable =>
    .file body (position + n) append readable writable
  | o => o

/-- Bytes that were read too far can be given back. -/
def isSeekable : Opened → Bool
  | .file _ _ _ _ _ => true
  | _ => false

def write (fs : Files) (bytes : ByteArray) : Opened → Attempt (Files × Opened)
  | .sink old => .ok (fs, .sink (old ++ bytes))
  | .file body position append readable writable => do
    if !writable then .error .badDescriptor
    else
      let start := if append then fs.sizeOf (.body body) else position
      let fs ← fs.writeTo (.body body) start bytes
      return (fs, .file body (start + bytes.size) append readable writable)
  | .pipe body => do return (← fs.writeTo (.pipe body) 0 bytes, .pipe body)
  | .device d => do return (← fs.writeTo (.device d) 0 bytes, .device d)
  | .source _ | .directory => .error .badDescriptor

end Opened

end StackVM.Shell
