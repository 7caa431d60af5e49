/-! # Failures of file operations -/

namespace StackVM

/-- Why an operation on a path or on an open file fails. -/
inductive PathError where
  | notPermitted
  | noEntry
  | noDevice
  | badDescriptor
  | denied
  | busy
  | exists
  | notDirectory
  | isDirectory
  | invalid
  | noSpace
  | illegalSeek
  | brokenPipe
  | nameTooLong
  | notEmpty
  | loop
deriving DecidableEq, Repr

namespace PathError

def number : PathError → Nat
  | .notPermitted => 1
  | .noEntry => 2
  | .noDevice => 6
  | .badDescriptor => 9
  | .denied => 13
  | .busy => 16
  | .exists => 17
  | .notDirectory => 20
  | .isDirectory => 21
  | .invalid => 22
  | .noSpace => 28
  | .illegalSeek => 29
  | .brokenPipe => 32
  | .nameTooLong => 36
  | .notEmpty => 39
  | .loop => 40

def text : PathError → String
  | .notPermitted => "Operation not permitted"
  | .noEntry => "No such file or directory"
  | .noDevice => "No such device or address"
  | .badDescriptor => "Bad file descriptor"
  | .denied => "Permission denied"
  | .busy => "Device or resource busy"
  | .exists => "File exists"
  | .notDirectory => "Not a directory"
  | .isDirectory => "Is a directory"
  | .invalid => "Invalid argument"
  | .noSpace => "No space left on device"
  | .illegalSeek => "Illegal seek"
  | .brokenPipe => "Broken pipe"
  | .nameTooLong => "File name too long"
  | .notEmpty => "Directory not empty"
  | .loop => "Too many levels of symbolic links"

end PathError

end StackVM
