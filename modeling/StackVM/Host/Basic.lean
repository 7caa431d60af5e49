import StackVM.Host.Files
import StackVM.Shell.Interpreter

/-! # The host

What a sandboxed program must not reach: files, environment variables and other processes.
-/

namespace StackVM

/-- A command line to be run by another process. -/
structure Job where
  line : String
  files : Files
  environment : Record String
  input : List UInt8

/-- What another process did; nothing at all if it could not be started. -/
structure JobResult where
  /-- How it ended, or why this is not known. -/
  ending : Except String Shell.Ending
  files : Files
  /-- What it left of its input. -/
  input : List UInt8
  output : List UInt8
  errors : List UInt8

/-- The host of a run. -/
structure Host where
  files : Files
  environment : Record String
  /-- What other processes do. -/
  process : Job → JobResult

namespace Host

/-- Other processes are shells. -/
def shell (job : Job) : JobResult :=
  let o := Shell.run job.line job.files job.environment job.input
  { ending := .ok o.ending, files := o.files, input := o.input, output := o.output, errors := o.errors }

/-- The files of the utilities: their names with the numbers of their bodies. -/
def programs : Record Entry :=
  Record.ofList (Shell.Registry.names.mapIdx fun i name => (name, .file i))

def programBodies : Array Body :=
  (Shell.Registry.names.map fun name =>
    { bytes := ⟨#[0x7f, 0x45, 0x4c, 0x46]⟩, mode := 0o755, program := some name }).toArray

def devices : Record Entry :=
  [("full", .device .full), ("null", .device .null), ("random", .device .random),
    ("urandom", .device .random), ("zero", .device .zero)]

/-- A directory that everyone may look into. -/
def plainDirectory (entries : Record Entry) : Entry := .directory 0o755 entries

/-- A file tree with the usual directories and an empty working directory. -/
def freshFiles : Files where
  root := plainDirectory
    [("bin", .link "usr/bin"), ("dev", plainDirectory devices), ("etc", plainDirectory []), ("home", plainDirectory []),
      ("root", .directory 0o700 []), ("sbin", .link "usr/sbin"),
      ("tmp", .directory 0o1777 [("work", plainDirectory [])]),
      ("usr", plainDirectory [("bin", plainDirectory programs), ("lib", plainDirectory []), ("sbin", plainDirectory []),
        ("share", plainDirectory [])]),
      ("var", plainDirectory [("tmp", .directory 0o1777 [])])]
  working := ["tmp", "work"]
  bodies := programBodies

/-- The variables that every process has. -/
def freshEnvironment : Record String :=
  [("HOME", "/root"), ("PATH", "/usr/local/sbin:/usr/local/bin:/usr/sbin:/usr/bin:/sbin:/bin"),
    ("TZ", "UTC")]

/-- A host with an empty working directory. -/
def fresh : Host := ⟨freshFiles, freshEnvironment, shell⟩

end Host

end StackVM
