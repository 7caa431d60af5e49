import StackVM.Host.Path

/-! # Files and directories

A file tree with the contents of its files and a working directory. Operations fail with a reason;
those that consist of several steps also give the files after the steps that were done.
-/

namespace StackVM

/-- What a file holds. -/
structure Body where
  bytes : ByteArray
  /-- The permissions. -/
  mode : Nat
  /-- The utility that runs when the file is executed. -/
  program : Option String := none
  /-- When the bytes were changed last, in seconds. -/
  time : Int := 0

structure Files where
  root : Entry
  /-- The names on the way to the working directory. -/
  working : List String
  /-- The contents of files, by their numbers. -/
  bodies : Array Body := #[]
  /-- The time of the next change. -/
  time : Int := 0

/-- The result of an operation on files. -/
abbrev Attempt (α : Type) := Except PathError α

/-- What bytes are written to. -/
inductive Target where
  | body (number : Nat)
  | pipe (number : Nat)
  | device (d : Device)
deriving DecidableEq, Repr

namespace Files

def fileMode : Nat := 0o644

def directoryMode : Nat := 0o755

/-- Where a path leads; links are followed. -/
def locate (fs : Files) (path : String) : Attempt Spot := Path.locate fs.root fs.working true path

/-- Where a path leads; a link at its end is not followed. -/
def locateLink (fs : Files) (path : String) : Attempt Spot :=
  Path.locate fs.root fs.working false path

def entry (fs : Files) (path : String) : Attempt Entry := do
  match (← fs.locate path).entry with
  | some e => .ok e
  | none => .error .noEntry

/-- The entry of a path, if there is one. -/
def entry? (fs : Files) (path : String) : Option Entry := (fs.entry path).toOption

/-- The entry of a path, which may be a link. -/
def entryOrLink? (fs : Files) (path : String) : Option Entry :=
  match fs.locateLink path with
  | .ok s => s.entry
  | .error _ => none

/-- The path leads to something. -/
def exists? (fs : Files) (path : String) : Bool := (fs.entry? path).isSome

/-- The path leads to a directory. -/
def isDirectory (fs : Files) (path : String) : Bool := (fs.entry? path).any Entry.isDirectory

def body (fs : Files) (number : Nat) : Body := fs.bodies.getD number ⟨ByteArray.empty, 0, none, 0⟩

/-- Changes the body with a number. -/
def modifyBody (fs : Files) (number : Nat) (change : Body → Body) : Files :=
  { fs with bodies := fs.bodies.modify number change }

/-- Puts an entry at a place or removes what is there. -/
def put (fs : Files) (place : List String) (e : Option Entry) : Files :=
  { fs with root := fs.root.put e place }

/-- Notes that time goes by. -/
def tick (fs : Files) : Files := { fs with time := fs.time + 1 }

/-- Puts a new file at a place; gives the number of its body. -/
def putFile (fs : Files) (place : List String) (bytes : ByteArray) (mode : Nat) : Nat × Files :=
  let number := fs.bodies.size
  (number, { (fs.put place (some (.file number))).tick with
    bodies := fs.bodies.push { bytes, mode, time := fs.time } })

/-- The bytes of an entry. A device without end gives some bytes. -/
def content (fs : Files) : Entry → Attempt ByteArray
  | .file number => .ok (fs.body number).bytes
  | .directory _ _ => .error .isDirectory
  | .device .null | .pipe _ | .link _ => .ok ByteArray.empty
  | .device .random => .ok ⟨((List.range 65536).map fun n => (n * 167 + n / 256 * 91).toUInt8).toArray⟩
  | .device _ => .ok ⟨Array.replicate 1048576 0⟩

def read (fs : Files) (path : String) : Attempt ByteArray := do fs.content (← fs.entry path)

/-- The content of a file, if it can be read. -/
def read? (fs : Files) (path : String) : Option (List UInt8) := (fs.read path).toOption.map (·.toList)

/-- Opens a file to write to it; it is made if it does not exist, and emptied if asked for. -/
def openToWrite (fs : Files) (path : String) (empty : Bool) (mode : Nat) :
    Attempt (Target × Files) := do
  let s ← fs.locate path
  match s.entry with
  | some (.file number) =>
    let fs := if empty then fs.modifyBody number fun b =>
      { b with bytes := ByteArray.empty, time := fs.time } else fs
    return (.body number, fs.tick)
  | some (.directory _ _) => .error .isDirectory
  | some (.pipe number) => return (.pipe number, fs)
  | some (.device d) => return (.device d, fs)
  | some (.link _) => .error .loop
  | none =>
    if s.slash || !s.named then .error .isDirectory
    else
      let (number, fs) := fs.putFile s.place ByteArray.empty mode
      return (.body number, fs)

/-- Writes bytes at an offset; a gap before it is filled with zeros. -/
def splice (old : ByteArray) (offset : Nat) (new : ByteArray) : ByteArray :=
  if offset = old.size then old ++ new
  else if old.size < offset then old ++ ⟨Array.replicate (offset - old.size) 0⟩ ++ new
  else old.extract 0 offset ++ new ++ old.extract (offset + new.size) old.size

/-- Writes to a target, at an offset if it is a file. -/
def writeTo (fs : Files) (target : Target) (offset : Nat) (bytes : ByteArray) : Attempt Files :=
  match target with
  | .body number =>
    .ok (fs.modifyBody number fun b =>
      { b with bytes := splice b.bytes offset bytes, time := fs.time }).tick
  | .pipe number => .ok (fs.modifyBody number fun b => { b with bytes := b.bytes ++ bytes })
  | .device .full => if bytes.isEmpty then .ok fs else .error .noSpace
  | .device _ => .ok fs

/-- The number of bytes in a target. -/
def sizeOf (fs : Files) : Target → Nat
  | .body number => (fs.body number).bytes.size
  | _ => 0

/-- Writes a file, which is made if it does not exist. -/
def write (fs : Files) (path : String) (content : List UInt8) (append : Bool) : Attempt Files := do
  let (target, fs) ← fs.openToWrite path (!append) fileMode
  fs.writeTo target (fs.sizeOf target) ⟨content.toArray⟩

/-- Removes a name that does not lead to a directory. -/
def remove (fs : Files) (path : String) : Attempt Files := do
  let s ← fs.locateLink path
  match s.entry with
  | some (.directory _ _) => .error .isDirectory
  | some _ => return (fs.put s.place none).tick
  | none => .error .noEntry

/-- Copies a file with its permissions. A file that is copied onto itself loses its content, because
the target is emptied first. -/
def copy (fs : Files) (source target : String) : Attempt Files := do
  match ← fs.entry source with
  | .file number =>
    let mode := (fs.body number).mode
    let (goal, fs) ← fs.openToWrite target true mode
    let bytes := (fs.body number).bytes
    let fs ← fs.writeTo goal 0 bytes
    match goal with
    | .body number => return fs.modifyBody number fun b => { b with mode }
    | _ => return fs
  | .directory _ _ => .error .isDirectory
  | _ => .error .invalid

/-- What may take the place of what is at the target of a move. -/
def checkReplace (moved : Entry) (s : Spot) : Attempt Unit :=
  match s.entry, moved.isDirectory with
  | none, directory => if s.slash && !directory then .error .notDirectory else .ok ()
  | some (.directory _ entries), true => if entries.isEmpty then .ok () else .error .notEmpty
  | some (.directory _ _), false => .error .isDirectory
  | some _, true => .error .notDirectory
  | some _, false => if s.slash then .error .notDirectory else .ok ()

/-- Both entries are names of one file. -/
def sameFile : Option Entry → Option Entry → Bool
  | some (.file a), some (.file b) => a == b
  | _, _ => false

/-- Moves a file or a directory. A directory cannot be moved into itself. -/
def move (fs : Files) (source target : String) : Attempt Files := do
  let origin ← fs.locateLink source
  let goal ← fs.locateLink target
  match origin.entry with
  | none => .error .noEntry
  | some moved =>
    if !origin.named || !goal.named then .error .busy
    else if origin.place = goal.place then
      if goal.slash && !moved.isDirectory then .error .notDirectory else return fs
    else if sameFile origin.entry goal.entry then return fs
    else if origin.place.isPrefixOf goal.place then .error .invalid
    else
      checkReplace moved goal
      if goal.place.isPrefixOf origin.place then .error .notEmpty
      else return ((fs.put origin.place none).put goal.place (some moved)).tick

/-- Puts a new entry at a path where there is none. -/
def place (fs : Files) (path : String) (e : Entry) : Attempt Files := do
  let s ← fs.locateLink path
  if s.entry.isSome then .error .exists
  else if s.slash && !e.isDirectory then .error .noEntry
  else return (fs.put s.place (some e)).tick

def makePipe (fs : Files) (path : String) (mode : Nat) : Attempt Files := do
  let number := fs.bodies.size
  let fs ← fs.place path (.pipe number)
  return { fs with bodies := fs.bodies.push { bytes := ByteArray.empty, mode } }

def makeDirectory (fs : Files) (path : String) (mode : Nat) : Attempt Files :=
  fs.place path (.directory mode [])

/-- The innermost directories around a path that are missing, the innermost first, up to one that
exists or could be made; `none` if there is another obstacle. -/
def missing (fs : Files) (mode : Nat) : List String → List String → Bool × List String × Files
  | [], found => (true, found, fs)
  | path :: rest, found =>
    match fs.makeDirectory path mode with
    | .ok fs => (true, found, fs)
    | .error .noEntry => missing fs mode rest (path :: found)
    | .error .exists => (fs.isDirectory path, found, fs)
    | .error _ => (false, found, fs)

/-- Makes directories, each within the one before. Those made before a failure stay. -/
def makeEach (fs : Files) (mode : Nat) : List String → Bool × Files
  | [] => (true, fs)
  | path :: rest =>
    match fs.makeDirectory path mode with
    | .ok fs => makeEach fs mode rest
    | .error .exists => if fs.isDirectory path then makeEach fs mode rest else (false, fs)
    | .error _ => (false, fs)

/-- Makes a directory and those it lies in. -/
def makeDirectories (fs : Files) (path : String) : Bool × Files :=
  if path.isEmpty then (true, fs)
  else
    match fs.missing directoryMode (Path.ancestors path) [] with
    | (true, found, fs) => fs.makeEach directoryMode found
    | (false, _, fs) => (false, fs)

/-- Removes an empty directory. -/
def removeDirectory (fs : Files) (path : String) : Attempt Files := do
  let s ← fs.locateLink path
  match s.entry with
  | some (.directory _ entries) =>
    if !s.named then .error (if s.place = [] then .busy else .invalid)
    else if !entries.isEmpty then .error .notEmpty
    else return (fs.put s.place none).tick
  | some _ => .error .notDirectory
  | none => .error .noEntry

/-- Removes a directory with all it holds, or a link. A directory that the path does not name by a
last name is emptied but stays, which is a failure; outside the working directory it is not even
emptied. -/
def removeTree (fs : Files) (path : String) : Bool × Files :=
  match fs.locateLink path with
  | .error _ => (false, fs)
  | .ok s =>
    match s.entry with
    | some (.directory mode _) =>
      if s.named then (true, fs.put s.place none)
      else if fs.working.isPrefixOf s.place then (false, fs.put s.place (some (.directory mode [])))
      else (false, fs)
    | some (.link _) => (true, fs.put s.place none)
    | _ => (false, fs)

/-- The entries of a directory, in the order of their names. -/
def entries (fs : Files) (path : String) : Attempt (Record Entry) := do
  match ← fs.entry path with
  | .directory _ entries => return entries
  | _ => .error .notDirectory

/-- The names in a directory, in order. -/
def list? (fs : Files) (path : String) : Option (List String) :=
  (fs.entries path).toOption.map Record.names

def mode (fs : Files) : Entry → Nat
  | .file number | .pipe number => (fs.body number).mode
  | .directory mode _ => mode
  | .link _ => 0o777
  | .device _ => 0o666

def setMode (fs : Files) (path : String) (mode : Nat) : Attempt Files := do
  let s ← fs.locate path
  match s.entry with
  | some (.file number) | some (.pipe number) =>
    return fs.modifyBody number fun b => { b with mode }
  | some (.directory _ entries) => return fs.put s.place (some (.directory mode entries))
  | some _ => return fs
  | none => .error .noEntry

/-- How many names lead to an entry: to a directory its own, its dot and the two dots of each
directory in it. -/
def links (fs : Files) : Entry → Nat
  | .file number => fs.root.countBody number
  | .directory _ entries => 2 + (entries.filter (·.2.isDirectory)).length
  | _ => 1

end Files

end StackVM
