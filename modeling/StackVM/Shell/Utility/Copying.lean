import StackVM.Shell.Permissions
import StackVM.Shell.Utility.Paths

/-! # Utilities that make, copy, move and remove files -/

namespace StackVM.Shell.Copying

open Paths (quoted withHint join baseName)

/-- The permissions of something new. -/
def newMode (c : Call) (most : Nat) : Nat := most - (most &&& c.mask)

/-- Takes up the files after a step, or reports that it failed. -/
def attempt (c : Call) (r : Report) (step : Attempt Files) (message : PathError → String) : Report :=
  match step with
  | .ok files => { r with files }
  | .error e => r.warn c.label (message e) 1

/-- Goes through all operands, of which there has to be one. -/
def eachOperand (c : Call) (a : Arguments) (step : Report → String → Report) : Report :=
  if a.operands.isEmpty then c.fail 1 (withHint c "missing operand")
  else a.operands.foldl step c.quiet

def mkdir (c : Call) : Report :=
  let shape : Arguments.Shape :=
    { plain := "pvZ", valued := "m", long := [("parents", 'p'), ("mode", 'm'), ("verbose", 'v')] }
  c.withArguments shape 1 fun a =>
    let usual := newMode c 0o777
    match Permissions.ofText? ((a.value? 'm').getD (String.ofList (Nat.toDigits 8 usual))) true c.mask
        0o777 with
    | none => c.fail 1 ("invalid mode " ++ quoted ((a.value? 'm').getD ""))
    | some mode =>
      let told := fun (r : Report) (path : String) =>
        if a.has 'v' then r.print (c.label ++ ": created directory " ++ quoted path ++ "\n") else r
      eachOperand c a fun r path =>
        let failure := fun (step : String) (e : PathError) =>
          "cannot create directory " ++ quoted step ++ ": " ++ e.text
        if !a.has 'p' then
          match r.files.makeDirectory (decode path) mode with
          | .ok files => told { r with files } path
          | .error e => r.warn c.label (failure path e) 1
        else
          let steps := (Path.ancestors (decode path)).reverse
          (steps.foldl (fun (r, going) step =>
            if !going || r.files.isDirectory step then (r, going)
            else
              match r.files.makeDirectory step (if step == decode path then mode else usual) with
              | .ok files => (told { r with files } (encode step), true)
              | .error e =>
                let e := if e == .exists && step != decode path then .notDirectory else e
                (r.warn c.label (failure (encode step) e) 1, false)) (r, true)).1

def rmdir (c : Call) : Report :=
  let shape : Arguments.Shape :=
    { plain := "pvi", long := [("parents", 'p'), ("ignore-fail-on-non-empty", 'i')] }
  c.withArguments shape 1 fun a =>
    eachOperand c a fun r path =>
      let steps := if a.has 'p' then (Path.ancestors (decode path)) else [decode path]
      (steps.foldl (fun (r, going) step =>
        if !going then (r, false)
        else match r.files.removeDirectory step with
          | .ok files => ({ r with files }, true)
          | .error e =>
            if a.has 'i' && e == .notEmpty then (r, false)
            else (r.warn c.label ("failed to remove " ++ quoted (encode step) ++ ": " ++ e.text) 1,
              false)) (r, true)).1

/-- Asks a question; the answer is the next line of the input. -/
def ask (c : Call) (r : Report) (question : String) : Bool × Report :=
  let line := ((c.input.toList.drop r.taken).takeWhile (· != '\n'))
  let taken := min c.input.length (r.taken + line.length + 1)
  (line.head? == some 'y' || line.head? == some 'Y',
    { r with taken, chunks := ⟨c.label ++ ": " ++ question ++ "? ", true⟩ :: r.chunks })

/-- The word for the kind of a file that is going to be removed. -/
def kindName (fs : Files) : Entry → String
  | .file number =>
    if (fs.body number).bytes.isEmpty then "regular empty file " else "regular file "
  | .directory _ _ => "directory "
  | .link _ => "symbolic link "
  | .pipe _ => "fifo "
  | .device _ => "character special file "

mutual

/-- Removes an entry and all that it holds; what is kept is given back. -/
def removeTree (c : Call) (a : Arguments) (path : String) : Entry → Report → Option Entry × Report
  | .directory mode entries, r =>
    let (going, r) := if a.has 'i' && !entries.isEmpty then
        ask c r ("descend into directory " ++ quoted path) else (true, r)
    if !going then (some (.directory mode entries), r)
    else
      let (kept, r) := removeEach c a path entries r
      if !kept.isEmpty then (some (.directory mode kept), r)
      else
        let (going, r) := if a.has 'i' then ask c r ("remove directory " ++ quoted path)
          else (true, r)
        if !going then (some (.directory mode []), r)
        else (none, if a.has 'v' then r.print ("removed directory " ++ quoted path ++ "\n") else r)
  | e, r =>
    let (going, r) := if a.has 'i' then
        ask c r ("remove " ++ kindName r.files e ++ quoted path) else (true, r)
    if !going then (some e, r)
    else (none, if a.has 'v' then r.print ("removed " ++ quoted path ++ "\n") else r)

def removeEach (c : Call) (a : Arguments) (path : String) :
    List (String × Entry) → Report → List (String × Entry) × Report
  | [], r => ([], r)
  | (name, e) :: rest, r =>
    let (kept, r) := removeTree c a (join path (encode name)) e r
    let (more, r) := removeEach c a path rest r
    ((kept.toList.map fun e => (name, e)) ++ more, r)

end

/-- Removes what a path leads to. -/
def removeAt (c : Call) (a : Arguments) (r : Report) (path : String) : Report :=
  let failure := fun (e : PathError) =>
    r.warn c.label ("cannot remove " ++ quoted path ++ ": " ++ e.text) 1
  let last := baseName path
  let remove := fun (s : Spot) (e : Entry) =>
    let (kept, r) := removeTree c a path e r
    { r with files := r.files.put s.place kept }
  match r.files.locateLink (decode path) with
  | .error e => if a.has 'f' && (e == .noEntry || e == .notDirectory) then r else failure e
  | .ok s =>
    match s.entry with
    | none => if a.has 'f' then r else failure .noEntry
    | some (.directory mode entries) =>
      if a.has 'r' then
        if s.place.isEmpty then
          let r := r.warn c.label ("it is dangerous to operate recursively on " ++
            if path.toList.all (· == '/') && path.length == 1 then "'/'"
            else quoted path ++ " (same as '/')") 1
          r.warn c.label "use --no-preserve-root to override this failsafe" 1
        else if last == "." || last == ".." then
          r.warn c.label ("refusing to remove '.' or '..' directory: skipping " ++ quoted path) 1
        else remove s (.directory mode entries)
      else if a.has 'd' then
        if entries.isEmpty then remove s (.directory mode entries) else failure .notEmpty
      else failure .isDirectory
    | some e => if s.slash then failure .notDirectory else remove s e

/-- Takes a letter of an option for another one. -/
def sameAs (letter other : Char) (a : Arguments) : Arguments :=
  { a with options := a.options.map fun (l, value) => (if l == letter then other else l, value) }

/-- Of some letters keeps the one that comes last. -/
def lastOf (letters : List Char) (a : Arguments) : Arguments :=
  let last := (a.options.reverse.find? fun (l, _) => letters.contains l).map fun (l, _) => l
  { a with options := a.options.filter fun (l, _) => !letters.contains l || some l == last }

def rm (c : Call) : Report :=
  let shape : Arguments.Shape :=
    { plain := "rRfidvI"
      long := [("recursive", 'r'), ("force", 'f'), ("dir", 'd'), ("verbose", 'v')] }
  c.withArguments shape 1 fun a =>
    let a := lastOf ['f', 'i', 'I'] (sameAs 'R' 'r' a)
    if a.operands.isEmpty && a.has 'f' then c.quiet
    else if a.has 'I' && (3 < a.operands.length || a.has 'r' && !a.operands.isEmpty) then
      let count := a.operands.length
      let (going, r) := ask c c.quiet ("remove " ++ numeral count ++
        (if count == 1 then " argument" else " arguments") ++
        if a.has 'r' then " recursively" else "")
      if going then a.operands.foldl (removeAt c a) r else r
    else eachOperand c a (removeAt c a)

def unlink (c : Call) : Report :=
  match c.arguments with
  | [path] => attempt c c.quiet (c.files.remove (decode path)) fun e =>
      "cannot unlink " ++ quoted path ++ ": " ++ e.text
  | [] => c.fail 1 (withHint c "missing operand")
  | _ :: extra :: _ => c.fail 1 (withHint c ("extra operand " ++ quoted extra))

/-- Earlier times than that of any change. -/
def longAgo : Int := -10000000000

def touch (c : Call) : Report :=
  let shape : Arguments.Shape :=
    { plain := "acfhm", valued := "drt"
      long := [("no-create", 'c'), ("date", 'd'), ("reference", 'r')] }
  c.withArguments shape 1 fun a =>
    let given := a.has 'd' || a.has 't'
    let digits := (((a.value? 'd').getD "") ++ ((a.value? 't').getD "")).toList.filter Char.isDigit
    let time := fun (fs : Files) =>
      if given then longAgo + ((readNatural 10 0 digits).1 : Int) else
        match (a.value? 'r').bind fun path => fs.entry? (decode path) with
        | some (.file number) => (fs.body number).time
        | _ => fs.time
    if a.operands.isEmpty then c.fail 1 (withHint c "missing file operand")
    else eachOperand c a fun r path =>
      let failure := fun (e : PathError) => "cannot touch " ++ quoted path ++ ": " ++ e.text
      let stamp := fun (fs : Files) =>
        match fs.entry? (decode path) with
        | some (.file number) => (fs.modifyBody number fun b => { b with time := time fs }).tick
        | _ => fs
      match r.files.entry (decode path) with
      | .ok _ => { r with files := stamp r.files }
      | .error .noEntry =>
        if a.has 'c' then r
        else
          let new := (r.files.openToWrite (decode path) false (newMode c 0o666)).map
            fun x => if given || a.has 'r' then stamp x.2 else x.2
          attempt c r new failure
      | .error e => r.warn c.label (failure e) 1

mutual

/-- Copies an entry onto another one. A file that exists keeps its number and its permissions,
directories are merged. -/
def graft (mask : Nat) : Entry → Option Entry → Files → Entry × Files
  | .file number, old, fs =>
    let source := fs.body number
    match old with
    | some (.file goal) =>
      (.file goal, fs.modifyBody goal fun b => { b with bytes := source.bytes, time := fs.time })
    | some (.pipe goal) => (.pipe goal, fs)
    | some (.device d) => (.device d, fs)
    | _ =>
      let mode := source.mode - (source.mode &&& mask)
      (.file fs.bodies.size, { fs with bodies := fs.bodies.push { source with mode, time := fs.time } })
  | .directory mode entries, old, fs =>
    let (mode, olds) := match old with
      | some (.directory mode olds) => (mode, olds)
      | _ => (mode - (mode &&& mask), [])
    let (news, fs) := graftAll mask entries olds fs
    (.directory mode news, fs)
  | .pipe number, _, fs =>
    (.pipe fs.bodies.size, { fs with bodies := fs.bodies.push { fs.body number with bytes := .empty } })
  | e, _, fs => (e, fs)

def graftAll (mask : Nat) : List (String × Entry) → List (String × Entry) → Files →
    List (String × Entry) × Files
  | [], olds, fs => (olds, fs)
  | (name, e) :: rest, olds, fs =>
    let (new, fs) := graft mask e (Record.get? olds name) fs
    graftAll mask rest (Record.insert olds name new) fs

end

/-- The sources and the goals of operands: the last one is a directory or the goal itself. -/
def pairs (c : Call) (a : Arguments) : Except String (List (String × String)) :=
  match a.value? 't' with
  | some directory =>
    if a.operands.isEmpty then .error (withHint c "missing file operand")
    else .ok (a.operands.map fun path => (path, join directory (baseName path)))
  | none =>
    match a.operands with
    | [] => .error (withHint c "missing file operand")
    | [one] => .error (withHint c ("missing destination file operand after " ++ quoted one))
    | [source, goal] =>
      if c.files.isDirectory (decode goal) && !a.has 'T' then
        .ok [(source, join goal (baseName source))]
      else .ok [(source, goal)]
    | operands =>
      let goal := operands.getLast?.getD ""
      match c.files.entry (decode goal) with
      | .ok e =>
        if e.isDirectory then .ok (operands.dropLast.map fun path => (path, join goal (baseName path)))
        else .error ("target " ++ quoted goal ++ ": Not a directory")
      | .error e => .error ("target " ++ quoted goal ++ ": " ++ e.text)

def copyOne (c : Call) (a : Arguments) (r : Report) (source goal : String) : Report :=
  let recursive := a.has 'r' || a.has 'R' || a.has 'a'
  let follow := !(a.has 'a' || a.has 'P' || a.has 'd' || recursive) || a.has 'L'
  let found := if follow then r.files.locate (decode source) else r.files.locateLink (decode source)
  let fs := r.files
  match found with
  | .error e => r.warn c.label ("cannot stat " ++ quoted source ++ ": " ++ e.text) 1
  | .ok origin =>
    match origin.entry with
    | none => r.warn c.label ("cannot stat " ++ quoted source ++ ": No such file or directory") 1
    | some e =>
      if e.isDirectory && !recursive then
        r.warn c.label ("-r not specified; omitting directory " ++ quoted source) 1
      else match fs.locate (decode goal) with
        | .error err =>
          let what := if e.isDirectory then "directory " else "regular file "
          r.warn c.label ("cannot create " ++ what ++ quoted goal ++ ": " ++ err.text) 1
        | .ok target =>
          let same := origin.place == target.place || Files.sameFile origin.entry target.entry
          if same then
            r.warn c.label (quoted source ++ " and " ++ quoted goal ++ " are the same file") 1
          else if e.isDirectory && origin.place.isPrefixOf target.place then
            let r := match target.entry with
              | none => place r e target
              | some _ => r
            r.warn c.label ("cannot copy a directory, " ++ quoted source ++ ", into itself, " ++
              quoted goal) 1
          else if a.has 'n' && target.entry.isSome then r
          else match target.entry, e.isDirectory with
            | some (.directory _ _), false =>
              r.warn c.label ("cannot overwrite directory " ++ quoted goal ++
                " with non-directory") 1
            | some other, true =>
              if other.isDirectory then place r e target
              else r.warn c.label ("cannot overwrite non-directory " ++ quoted goal ++
                " with directory " ++ quoted source) 1
            | none, false =>
              if target.slash then
                r.warn c.label ("cannot create regular file " ++ quoted goal ++
                  ": Not a directory") 1
              else place r e target
            | _, _ => place r e target
where
  /-- Puts the copy at its place. -/
  place (r : Report) (e : Entry) (target : Spot) : Report :=
    let mask := if a.has 'p' || a.has 'a' then 0 else c.mask
    let content? := match e, a.has 'r' || a.has 'R' || a.has 'a' with
      | .device _, false | .pipe _, false => (r.files.content e).toOption
      | _, _ => none
    let (new, files) := match content? with
      | some bytes =>
        (Entry.file r.files.bodies.size, { r.files with
          bodies := r.files.bodies.push { bytes, mode := newMode c 0o666, time := r.files.time } })
      | none => graft mask e target.entry r.files
    let r := { r with files := (files.put target.place (some new)).tick }
    if a.has 'v' then r.print (quoted source ++ " -> " ++ quoted goal ++ "\n") else r

def cp (c : Call) : Report :=
  let shape : Arguments.Shape :=
    { plain := "abdfHiLlnPpRrsTuvx", valued := "tS"
      long := [("recursive", 'r'), ("archive", 'a'), ("force", 'f'), ("no-clobber", 'n'),
        ("verbose", 'v'), ("preserve", 'p'), ("target-directory", 't'),
        ("no-target-directory", 'T'), ("dereference", 'L'), ("no-dereference", 'P'),
        ("update", 'u')] }
  c.withArguments shape 1 fun a =>
    match pairs c a with
    | .error message => c.fail 1 message
    | .ok all => all.foldl (fun r (source, goal) => copyOne c a r source goal) c.quiet

def moveOne (c : Call) (a : Arguments) (r : Report) (source goal : String) : Report :=
  let fs := r.files
  match fs.locateLink (decode source), fs.locateLink (decode goal) with
  | .error e, _ => r.warn c.label ("cannot stat " ++ quoted source ++ ": " ++ e.text) 1
  | .ok origin, found =>
    match origin.entry with
    | none => r.warn c.label ("cannot stat " ++ quoted source ++ ": No such file or directory") 1
    | some e =>
      match found with
      | .error err =>
        r.warn c.label ("cannot move " ++ quoted source ++ " to " ++ quoted goal ++ ": " ++ err.text) 1
      | .ok target =>
        if origin.place == target.place || Files.sameFile origin.entry target.entry then
          r.warn c.label (quoted source ++ " and " ++ quoted goal ++ " are the same file") 1
        else if e.isDirectory && origin.place.isPrefixOf target.place then
          r.warn c.label ("cannot move " ++ quoted source ++ " to a subdirectory of itself, " ++
            quoted goal) 1
        else if a.has 'n' && target.entry.isSome then r
        else match target.entry, e.isDirectory with
          | some (.directory _ _), false =>
            r.warn c.label ("cannot overwrite directory " ++ quoted goal ++
              " with non-directory " ++ quoted source) 1
          | some other, true =>
            if other.isDirectory then done (fs.move (decode source) (decode goal))
            else r.warn c.label ("cannot overwrite non-directory " ++ quoted goal ++
              " with directory " ++ quoted source) 1
          | _, _ => done (fs.move (decode source) (decode goal))
where
  /-- Takes up the files after the move. -/
  done (step : Attempt Files) : Report :=
    let r := attempt c r step fun e =>
      "cannot move " ++ quoted source ++ " to " ++ quoted goal ++ ": " ++ e.text
    if a.has 'v' && step.isOk then
      r.print ("renamed " ++ quoted source ++ " -> " ++ quoted goal ++ "\n")
    else r

def mv (c : Call) : Report :=
  let shape : Arguments.Shape :=
    { plain := "bfinTuv", valued := "tS"
      long := [("force", 'f'), ("no-clobber", 'n'), ("verbose", 'v'), ("target-directory", 't'),
        ("no-target-directory", 'T')] }
  c.withArguments shape 1 fun a =>
    match pairs c a with
    | .error message => c.fail 1 message
    | .ok all => all.foldl (fun r (source, goal) => moveOne c a r source goal) c.quiet

def linkOne (c : Call) (a : Arguments) (r : Report) (source goal : String) : Report :=
  let symbolic := a.has 's'
  let kind := if symbolic then "symbolic link " else "hard link "
  let failure := fun (e : PathError) =>
    let shown := if symbolic || e == .exists then quoted goal
      else quoted goal ++ " => " ++ quoted source
    "failed to create " ++ kind ++ shown ++ ": " ++ e.text
  let fs := if a.has 'f' then
      match r.files.entryOrLink? (decode goal) with
      | some e => if e.isDirectory then r.files else (r.files.remove (decode goal)).toOption.getD r.files
      | none => r.files
    else r.files
  if symbolic then attempt c r (fs.place (decode goal) (.link (decode source))) failure
  else match fs.locateLink (decode source) with
    | .error e => r.warn c.label ("failed to access " ++ quoted source ++ ": " ++ e.text) 1
    | .ok spot =>
      match spot.entry with
      | none => r.warn c.label ("failed to access " ++ quoted source ++
          ": No such file or directory") 1
      | some (.directory _ _) =>
        r.warn c.label (source ++ ": hard link not allowed for directory") 1
      | some e => attempt c r (fs.place (decode goal) e) failure

def ln (c : Call) : Report :=
  let shape : Arguments.Shape :=
    { plain := "bdfFiLnPrsTv", valued := "tS"
      long := [("symbolic", 's'), ("force", 'f'), ("verbose", 'v'), ("no-target-directory", 'T'),
        ("no-dereference", 'n'), ("target-directory", 't')] }
  c.withArguments shape 1 fun a =>
    let found : Except String (List (String × String)) := match a.operands with
      | [one] => .ok [(one, join "." (baseName one))]
      | [source, goal] =>
        let isLink := match c.files.entryOrLink? (decode goal) with
          | some (.link _) => true
          | _ => false
        if a.has 'n' && isLink then .ok [(source, goal)] else pairs c a
      | _ => pairs c a
    match found with
    | .error message => c.fail 1 message
    | .ok all => all.foldl (fun r (source, goal) =>
        let r := linkOne c a r source goal
        if a.has 'v' && r.status == 0 then
          r.print (quoted goal ++ (if a.has 's' then " -> " else " => ") ++ quoted source ++ "\n")
        else r) c.quiet

mutual

/-- Changes the permissions of an entry and of all it holds. -/
def changeAll (change : Bool → Nat → Nat) : Entry → Files → Entry × Files
  | .file number, fs => (.file number, fs.modifyBody number fun b =>
      { b with mode := change false b.mode })
  | .pipe number, fs => (.pipe number, fs.modifyBody number fun b =>
      { b with mode := change false b.mode })
  | .directory mode entries, fs =>
    let (news, fs) := changeEach change entries fs
    (.directory (change true mode) news, fs)
  | e, fs => (e, fs)

def changeEach (change : Bool → Nat → Nat) : List (String × Entry) → Files →
    List (String × Entry) × Files
  | [], fs => ([], fs)
  | (name, e) :: rest, fs =>
    let (e, fs) := changeAll change e fs
    let (rest, fs) := changeEach change rest fs
    ((name, e) :: rest, fs)

end

def chmod (c : Call) : Report :=
  let isMode := fun (text : String) =>
    match text.toList with
    | '-' :: ch :: rest => (ch :: rest).all fun ch => "rwxXstugoa,+-=".toList.contains ch
    | _ => false
  let (modes, others) := c.arguments.partition isMode
  let inner := { c with arguments := others }
  let shape : Arguments.Shape :=
    { plain := "Rcvf", valued := "r", long := [("recursive", 'R'), ("reference", 'r')] }
  inner.withArguments shape 1 fun a =>
    let (mode, operands) := match modes with
      | mode :: _ => (mode, a.operands)
      | [] => (a.operands.headD "", a.operands.drop 1)
    if mode.isEmpty then c.fail 1 (withHint c "missing operand")
    else if operands.isEmpty then
      c.fail 1 (withHint c ("missing operand after " ++ quoted mode))
    else if (Permissions.ofText? mode false 0 0).isNone then
      c.fail 1 (withHint c ("invalid mode: " ++ quoted mode))
    else operands.foldl (fun r path =>
      let change := fun (directory : Bool) (old : Nat) =>
        (Permissions.ofText? mode directory c.mask old).getD old
      match r.files.locate (decode path) with
      | .error e => r.warn c.label ("cannot access " ++ quoted path ++ ": " ++ e.text) 1
      | .ok s =>
        match s.entry with
        | none => r.warn c.label ("cannot access " ++ quoted path ++
            ": No such file or directory") 1
        | some e =>
          if a.has 'R' then
            let (new, files) := changeAll change e r.files
            { r with files := files.put s.place (some new) }
          else attempt c r (r.files.setMode (decode path)
            (change e.isDirectory (r.files.mode e))) fun e =>
              "changing permissions of " ++ quoted path ++ ": " ++ e.text) c.quiet

def mkfifo (c : Call) : Report :=
  c.withArguments { plain := "Z", valued := "m", long := [("mode", 'm')] } 1 fun a =>
    let mode := (Permissions.ofText? ((a.value? 'm').getD "") false c.mask 0o666).getD
      (newMode c 0o666)
    let mode := if (a.value? 'm').isSome then mode else newMode c 0o666
    eachOperand c a fun r path =>
      attempt c r (r.files.makePipe (decode path) mode) fun e =>
        "cannot create fifo " ++ quoted path ++ ": " ++ e.text

/-- A new size, absolute or relative. -/
def newSize? (text : List Char) (old : Nat) : Option Nat :=
  let number? := fun (cs : List Char) =>
    let digits := cs.takeWhile Char.isDigit
    let unit := match String.ofList (cs.drop digits.length) with
      | "" => some 1
      | "K" | "k" => some 1024
      | "KB" | "kB" => some 1000
      | "M" => some 1048576
      | _ => none
    if digits.isEmpty then none else unit.map fun u => (readNatural 10 0 digits).1 * u
  match text with
  | '+' :: rest => (number? rest).map (old + ·)
  | '-' :: rest => (number? rest).map (old - ·)
  | '<' :: rest => (number? rest).map (min old ·)
  | '>' :: rest => (number? rest).map (max old ·)
  | rest => number? rest

def truncate (c : Call) : Report :=
  let shape : Arguments.Shape :=
    { plain := "co", valued := "sr", long := [("size", 's'), ("no-create", 'c'), ("reference", 'r')] }
  c.withArguments shape 1 fun a =>
    match a.value? 's' with
    | none => c.fail 1 (withHint c "you must specify either '--size' or '--reference'")
    | some text =>
      if a.operands.isEmpty then c.fail 1 (withHint c "missing file operand")
      else a.operands.foldl (fun r path =>
        if a.has 'c' && !r.files.exists? (decode path) then r
        else match r.files.openToWrite (decode path) false (newMode c 0o666) with
          | .error e => r.warn c.label ("cannot open " ++ quoted path ++ " for writing: " ++ e.text) 1
          | .ok (target, files) =>
            match target, newSize? text.toList (files.sizeOf target) with
            | .body number, some size =>
              let resize := fun (bytes : ByteArray) =>
                if size ≤ bytes.size then bytes.extract 0 size
                else bytes ++ ⟨Array.replicate (size - bytes.size) 0⟩
              { r with files := files.modifyBody number fun b => { b with bytes := resize b.bytes } }
            | _, none => c.fail 1 ("Invalid number: " ++ quoted text)
            | _, _ => r) c.quiet

def mktemp (c : Call) : Report :=
  let shape : Arguments.Shape :=
    { plain := "dquVt", valued := "p", long := [("directory", 'd'), ("dry-run", 'u'), ("tmpdir", 'p')] }
  c.withArguments shape 1 fun a =>
    let letters := fun (n : Nat) => (List.range n).map fun i =>
      Char.ofNat (97 + (c.files.bodies.size * 7 + i * 11 + c.files.time.toNat * 5) % 26)
    let fill := fun (template : String) =>
      let cs := template.toList.reverse
      let count := (cs.takeWhile (· == 'X')).length
      String.ofList ((cs.drop count).reverse ++ letters count)
    let path := match a.operands with
      | template :: _ => match a.value? 'p' with
        | some directory => join directory (fill template)
        | none => fill template
      | [] => join ((a.value? 'p').getD "/tmp") (fill "tmp.XXXXXXXXXX")
    let step := if a.has 'u' then .ok c.files
      else if a.has 'd' then c.files.makeDirectory (decode path) 0o700
      else (c.files.openToWrite (decode path) true 0o600).map (·.2)
    match step with
    | .ok files => { c.print (path ++ "\n") with files }
    | .error e => c.fail 1 ("failed to create file via template " ++ quoted path ++ ": " ++ e.text)

/-- The value of an operand such as `bs=4`. -/
def operandValue? (c : Call) (name : String) : Option String :=
  (c.arguments.reverse.find? fun a => a.startsWith (name ++ "=")).map fun a =>
    String.ofList (a.toList.drop (name.length + 1))

/-- The number of an operand, which may have a unit. -/
def operandNumber (c : Call) (name : String) (default : Nat) : Nat :=
  match operandValue? c name with
  | none => default
  | some text => (newSize? text.toList 0).getD default

def dd (c : Call) : Report :=
  let block := operandNumber c "bs" (operandNumber c "ibs" 512)
  let source := operandValue? c "if"
  match c.read (source.getD "-") with
  | .error e => c.fail 1 ("failed to open " ++ quoted (source.getD "") ++ ": " ++ e.text)
  | .ok text =>
    let skipped := text.toList.drop (operandNumber c "skip" 0 * block)
    let copied := match operandValue? c "count" with
      | some _ => skipped.take (operandNumber c "count" 0 * block)
      | none => skipped
    let conversions := ((operandValue? c "conv").getD "").splitOn ","
    let copied := if conversions.contains "ucase" then copied.map Char.toUpper
      else if conversions.contains "lcase" then copied.map Char.toLower else copied
    let full := copied.length / max block 1
    let rest := if copied.length % max block 1 == 0 then 0 else 1
    let records := fun (way : String) => numeral full ++ "+" ++ numeral rest ++ " records " ++ way
    let taken := if source.isNone then min c.input.length
        (operandNumber c "skip" 0 * block + copied.length) else 0
    let note := if ((operandValue? c "status").getD "") == "none" then [] else
      [⟨records "in" ++ "\n" ++ records "out" ++ "\n", true⟩]
    match operandValue? c "of" with
    | none =>
      let r := c.print (String.ofList copied)
      { r with taken, chunks := note ++ r.chunks }
    | some goal =>
      let keep := conversions.contains "notrunc"
      let offset := operandNumber c "seek" 0 * operandNumber c "bs" (operandNumber c "obs" 512)
      let write := do
        let (target, fs) ← c.files.openToWrite (decode goal) (!keep && offset == 0) (newMode c 0o666)
        let fs := match target, keep with
          | .body number, false => fs.modifyBody number fun b =>
              { b with bytes := b.bytes.extract 0 offset }
          | _, _ => fs
        fs.writeTo target offset ⟨(toBytes (String.ofList copied)).toArray⟩
      match write with
      | .ok files => { c.quiet with files, taken, chunks := note }
      | .error e => c.fail 1 ("failed to open " ++ quoted goal ++ ": " ++ e.text)

/-- The names of the pieces of a file: two letters or digits behind a start. -/
def pieceName (start : String) (digits : Bool) (width n : Nat) : String :=
  let base := if digits then 10 else 26
  let first := if digits then 48 else 97
  let letters := (List.range width).map fun i =>
    Char.ofNat (first + n / Nat.pow base (width - 1 - i) % base)
  start ++ String.ofList letters

/-- Groups of at most so many members; `fuel` bounds their number. -/
def chunksOf {α : Type} (size : Nat) : Nat → List α → List (List α)
  | 0, _ => []
  | _, [] => []
  | fuel + 1, items => items.take size :: chunksOf size fuel (items.drop size)

def split (c : Call) : Report :=
  let shape : Arguments.Shape :=
    { plain := "d", valued := "lbna"
      long := [("lines", 'l'), ("bytes", 'b'), ("numeric-suffixes", 'd'), ("suffix-length", 'a')] }
  c.withArguments shape 1 fun a =>
    let (text, r) := c.gather [a.operands.headD "-"]
    let width := ((a.value? 'a').bind fun t => newSize? t.toList 0).getD 2
    let pieces := match (a.value? 'b').bind fun t => newSize? t.toList 0 with
      | some n => (chunksOf (max n 1) (text.length + 1) text.toList).map String.ofList
      | none =>
        let n := ((a.value? 'l').bind fun t => newSize? t.toList 0).getD 1000
        (chunksOf (max n 1) (text.length + 1) (fullLines text)).map String.join
    (pieces.zipIdx).foldl (fun r (piece, i) =>
      let path := pieceName (a.operands.getD 1 "x") (a.has 'd') width i
      attempt c r (r.files.write (decode path) (toBytes piece) false) fun e =>
        path ++ ": " ++ e.text) r

end StackVM.Shell.Copying
