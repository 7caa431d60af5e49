import StackVM.Builtin.Params
import StackVM.Host.Basic
import StackVM.Host.Wildcard

/-! # Builtins that reach files and the environment

They report failure by their result, false or null.
-/

namespace StackVM

/-- Operations on the host. -/
inductive SystemCall where
  | envGet
  | fileExists
  | fileRead
  | fileWrite
  | fileAppend
  | fileDelete
  | fileCopy
  | fileMove
  | fileType
  | fileStat
  | fileGlob
  | dirCreate
  | dirDelete
  | dirList
deriving DecidableEq, Repr

namespace SystemCalls

def kind : Entry → String
  | .file _ => "file"
  | .directory _ _ => "directory"
  | _ => "other"

def size (fs : Files) : Entry → Nat
  | .file number => (fs.body number).bytes.size
  | .directory _ _ => 4096
  | _ => 0

/-- The letters of permissions, one for each bit. -/
def permissions (mode : Nat) : String :=
  String.ofList ((List.range 9).map fun i =>
    if mode.testBit (8 - i) then ['r', 'w', 'x'].getD (i % 3) '-' else '-')

def deviceNumber : Entry → Nat
  | .device .null => 259
  | .device .zero => 261
  | .device .full => 263
  | .device .random => 264
  | _ => 0

/-- What is known of an entry. -/
def stat (fs : Files) (e : Entry) : Record Value :=
  Record.ofList
    [("mode", .str (kind e)), ("size", .ofNat (size fs e)),
      ("permissions", .str (permissions (fs.mode e))),
      ("gid", .ofNat 0), ("uid", .ofNat 0), ("dev", .ofNat 1), ("blksize", .ofNat 4096),
      ("rdev", .ofNat (deviceNumber e)), ("access", .ofNat 0),
      ("nlink", .ofNat (fs.links e)), ("change", .ofNat 0),
      ("modification", .ofNat 0), ("blocks", .ofNat ((size fs e + 4095) / 4096 * 8)),
      ("ino", .ofNat 1)]

/-- The value of an optional one. -/
def orNull (v : Option Value) : Value := v.getD .null

/-- The new files if the change succeeded. -/
def report (host : Host) (files : Attempt Files) : Value × Host :=
  match files with
  | .ok files => (.bool true, { host with files })
  | .error _ => (.bool false, host)

/-- The success of a change that may have been made in part, and the files after it. -/
def conclude (host : Host) (change : Bool × Files) : Value × Host :=
  (.bool change.1, { host with files := change.2 })

/-- The target may be written: it does not exist, or the third parameter allows it. -/
def mayWrite (p : Params) (files : Files) : Bool := p.flag 2 || !files.exists? (p.text 1)

end SystemCalls

open SystemCalls in
/-- The value of an operation and the host afterwards. -/
def SystemCall.apply (call : SystemCall) (p : Params) (host : Host) : Value × Host :=
  let fs := host.files
  let path := p.text 0
  match call with
  | .envGet => (orNull ((host.environment.get? path).map .str), host)
  | .fileExists => (.bool (fs.exists? path), host)
  | .fileRead => (orNull ((fs.read? path).map fun bytes => .str (Text.fromUtf8Lossy bytes)), host)
  | .fileWrite => report host (fs.write path (Text.utf8 (p.text 1)) false)
  | .fileAppend => report host (fs.write path (Text.utf8 (p.text 1)) true)
  | .fileDelete => report host (fs.remove path)
  | .fileCopy => report host (if mayWrite p fs then fs.copy path (p.text 1) else .error .exists)
  | .fileMove => report host (if mayWrite p fs then fs.move path (p.text 1) else .error .exists)
  | .fileType => (orNull ((fs.entry? path).map fun e => .str (kind e)), host)
  | .fileStat => (orNull ((fs.entry? path).map fun e => .obj (stat fs e)), host)
  | .fileGlob =>
    (.arr ((Wildcard.paths fs (host.environment.get? "HOME") path).map .str), host)
  | .dirCreate =>
    if p.flag 1 then conclude host (fs.makeDirectories path)
    else report host (fs.makeDirectory path Files.directoryMode)
  | .dirDelete =>
    if p.flag 1 then conclude host (fs.removeTree path) else report host (fs.removeDirectory path)
  | .dirList => (orNull ((fs.list? path).map fun names => .arr (names.map .str)), host)

end StackVM
