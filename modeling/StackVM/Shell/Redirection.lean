import StackVM.Shell.Expansion

/-! # Redirections

A redirection opens a file, copies another stream or reads a text from the script. The streams that
a command had before are those of the session before it.
-/

namespace StackVM.Shell.Redirection

/-- The stream that a path of the device directory stands for. -/
def streamOf? (path : String) : Option Nat :=
  match path with
  | "/dev/stdin" => some 0
  | "/dev/stdout" => some 1
  | "/dev/stderr" => some 2
  | path =>
    let digits := path.toList.drop 8
    if path.startsWith "/dev/fd/" && !digits.isEmpty && digits.all Char.isDigit then
      some (readNatural 10 0 digits).1
    else none

/-- What is opened to read an entry. Reading a named pipe empties it. -/
def openEntry (s : Session) : Entry → Opened × Session
  | .file body => (.file body 0 false true false, s)
  | .directory _ _ => (.directory, s)
  | .pipe body =>
    (.source (s.files.body body).bytes.toList,
      { s with files := s.files.modifyBody body fun b => { b with bytes := ByteArray.empty } })
  | .device d => (.device d, s)
  | .link _ => (.device .null, s)

/-- The reason why a file cannot be opened. -/
def readReason : PathError → String
  | .noEntry => "No such file"
  | e => e.text

/-- The reason why a file cannot be made. -/
def writeReason : PathError → String
  | .noEntry => "Directory nonexistent"
  | e => e.text

/-- A new file is not allowed to take the place of another one. -/
def isProtected (s : Session) (force : Bool) (path : String) : Bool :=
  s.option 'C' && !force && (match s.files.entry? (decode path) with
    | some (.file _) => true
    | _ => false)

/-- What is opened on a target that is written to. -/
def openTarget (append readable : Bool) : Target → Opened
  | .body number => .file number 0 append readable true
  | .pipe number => .pipe number
  | .device d => .device d

/-- Opens a file for a stream, or says why it cannot be opened. -/
def openPath (s : Session) (stream : Nat) (opening : Opening) (path : String) :
    Except String Session :=
  let mode := 0o666 &&& (0o777 - s.mask)
  match streamOf? path with
  | some source =>
    match s.streams.lookup source with
    | some number => .ok (s.setStream stream (some number))
    | none => .error ("cannot open " ++ path ++ ": No such device or address")
  | none =>
    match opening with
    | .read =>
      match s.files.entry (decode path) with
      | .ok e =>
        let (o, s) := openEntry s e
        .ok (s.openStream stream o)
      | .error e => .error ("cannot open " ++ path ++ ": " ++ readReason e)
    | .write force =>
      if isProtected s force path then .error ("cannot create " ++ path ++ ": File exists")
      else create path (s.files.openToWrite (decode path) true mode) false false
    | .append => create path (s.files.openToWrite (decode path) false mode) true false
    | .readWrite => create path (s.files.openToWrite (decode path) false mode) false true
where
  /-- Opens a stream on a file that could be made. -/
  create (path : String) (attempt : Attempt (Target × Files)) (append readable : Bool) :
      Except String Session :=
    match attempt with
    | .ok (target, files) =>
      .ok ({ s with files }.openStream stream (openTarget append readable target))
    | .error e => .error ("cannot create " ++ path ++ ": " ++ writeReason e)

/-- Makes a stream a copy of another one, or closes it. -/
def copyStream (s : Session) (stream : Nat) (source : String) : Except String Session :=
  if source == "-" then .ok (s.setStream stream none)
  else match source.toList.all Char.isDigit, source.isEmpty with
    | true, false =>
      match s.streams.lookup (readNatural 10 0 source.toList).1 with
      | some number => .ok (s.setStream stream (some number))
      | none => .error (source ++ ": Bad file descriptor")
    | _, _ => .error "Syntax error: Bad fd number"

def isPipe (s : Session) (path : String) : Bool :=
  match s.files.entry? (decode path) with
  | some (.pipe _) => true
  | _ => false

def apply (run : Runner) (r : Redirection) (s : Session) : Bool × Session :=
  let conclude := fun (s : Session) (result : Except String Session) =>
    if !s.isRunning then (false, s)
    else match result with
      | .ok s => (true, s)
      | .error message => (false, s.complain message 2)
  match r with
  | .file stream opening path =>
    let (path, s) := Expansion.wordText run path s
    let s := if opening == .read && isPipe s path then run .settle s else s
    conclude s (openPath s stream opening path)
  | .duplicate stream source =>
    let (source, s) := Expansion.wordText run source s
    conclude s (copyStream s stream source)
  | .here stream text =>
    let (text, s) := Expansion.quotedText run text s
    conclude s (.ok (s.openStream stream (.source (toBytes text))))

def applyAll (run : Runner) : List Redirection → Session → Bool × Session
  | [], s => (true, s)
  | r :: rest, s =>
    match apply run r s with
    | (true, s) => applyAll run rest s
    | (false, s) => (false, s)

/-- Runs something with redirections; afterwards the streams are as before. If a redirection fails,
nothing runs. -/
def around (run : Runner) (rs : List Redirection) (inner : Session → Session) (s : Session) :
    Session :=
  if rs.isEmpty then inner s
  else
    let streams := s.streams
    let (opened, s) := applyAll run rs s
    { (if opened then inner s else s) with streams }

end StackVM.Shell.Redirection
