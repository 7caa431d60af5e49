import Std.Time.DateTime.Timestamp
import StackVM.CommandLine

/-! # The program

The file of the program and the standard input are read before the run, and what the run writes is
written afterwards.
-/

open StackVM

/-- The number of steps after which a run is given up. -/
def stepLimit : Nat := 1000000000000000000

/-- Copies a file of the real file system to the file tree of a run. -/
def install (files : Files) (path : String) : IO Files := do
  try
    let content ← IO.FS.readBinFile path
    let parents := "/".intercalate ((path.splitOn "/").dropLast)
    let files := (files.makeDirectories parents).2
    return (files.write path content.toList false).toOption.getD files
  catch _ => return files

def main (arguments : List String) : IO UInt32 := do
  let files ← match CommandLine.parse {} arguments with
    | .run o => install Host.freshFiles (o.path.getD "")
    | _ => pure Host.freshFiles
  let input ← (← IO.getStdin).readBinToEnd
  let now ← Std.Time.Timestamp.now
  let seed ← IO.rand 0 0xffffffffffffffff
  let world : World :=
    { host := { Host.fresh with files }
      clock := { seconds := now.toSecondsSinceUnixEpoch.val }
      input := input.toList }
  match CommandLine.run stepLimit arguments seed.toUInt64 false world with
  | some (code, world) =>
    (← IO.getStdout).write ⟨world.output.toArray⟩
    (← IO.getStderr).write ⟨world.errors.toArray⟩
    return code.toUInt32
  | none => return 3
