import StackVM.Shell.Utility.EditScript
import StackVM.Shell.Utility.Paths

/-! # The line editor

The editor reads line after line into a space, applies the commands of a script to it and writes it.
-/

namespace StackVM.Shell.Editing

structure InputLine where
  text : List Char
  /-- A line break ends it. -/
  ended : Bool
  file : String
  /-- It is the last line of its file. -/
  lastOfFile : Bool

/-- What happens at the end of a cycle. -/
inductive CycleEnd where
  /-- The space is written unless that is switched off. -/
  | normal
  /-- The space is dropped. -/
  | dropped
  /-- The next cycle goes on with the space as it is. -/
  | again
  | finished (print : Bool)
deriving DecidableEq

/-- The editor at work. -/
structure Editor where
  space : List Char := []
  held : List Char := []
  current : InputLine := ⟨[], true, "-", false⟩
  rest : List InputLine
  number : Nat := 0
  /-- What is written behind the space, in reverse. -/
  queue : List Chunk := []
  /-- For each command, the line at which its range ends; zero if only a match ends it. -/
  ranges : List (Nat × Nat) := []
  /-- The ranges that have ended. -/
  closed : List Nat := []
  /-- Something has been substituted since the line was read. -/
  substituted : Bool := false
  regex : Option Regex := none
  files : Files
  /-- The files that have been opened to write. -/
  opened : List String := []
  /-- What has been written, in reverse. -/
  output : List Chunk := []
  /-- The last line that was written lacks its line break. -/
  unfinished : Bool := false
  status : Nat := 0
  separate : Bool := false
  quiet : Bool := false

namespace Editor

def write (e : Editor) (text : String) : Editor :=
  let text := if e.unfinished then "\n" ++ text else text
  { e with output := ⟨text, false⟩ :: e.output, unfinished := false }

/-- Writes a line; the last one lacks its line break if the input does. -/
def writeLine (e : Editor) (text : List Char) (ended : Bool) : Editor :=
  { e.write (String.ofList text ++ if ended then "\n" else "") with unfinished := !ended }

def writeSpace (e : Editor) : Editor := e.writeLine e.space e.current.ended

def isLast (e : Editor) : Bool := e.rest.isEmpty || e.separate && e.current.lastOfFile

def writeFile (e : Editor) (path : String) (text : String) : Editor :=
  if path == "/dev/stdout" then e.write text
  else if path == "/dev/stderr" then { e with output := ⟨text, true⟩ :: e.output }
  else match e.files.write (decode path) (toBytes text) (e.opened.contains path) with
    | .ok files => { e with files, opened := path :: e.opened }
    | .error _ => e

/-- Reads the next line; `none` at the end. -/
def nextLine? (e : Editor) : Option Editor :=
  match e.rest with
  | [] => none
  | line :: rest =>
    let number := if e.separate && e.current.lastOfFile then 1 else e.number + 1
    some { e with current := line, rest, number }

/-- The expression that is meant, and the editor that remembers it. -/
def resolve (e : Editor) (r : EditRegex) : Option Regex × Editor :=
  match r.regex with
  | some regex => (some regex, { e with regex := some regex })
  | none => (e.regex, e)

def matchesSpace (e : Editor) (r : EditRegex) : Bool × Editor :=
  match e.resolve r with
  | (some regex, e) => ((regex.find? r.mode e.space.toArray 0).isSome, e)
  | (none, e) => (false, e)

def fits (e : Editor) : Address → Bool × Editor
  | .line n => (e.number == n, e)
  | .last => (e.isLast, e)
  | .matching r => e.matchesSpace r
  | .every first step =>
    (if step == 0 then e.number == first
      else first ≤ e.number && (e.number - first) % step == 0, e)

/-- Opens the range of a command at the present line, unless it ends at once. -/
def openRange (e : Editor) (index : Nat) (stop : RangeEnd) : Editor :=
  let until' := fun (n : Nat) =>
    if n ≤ e.number then e else { e with ranges := (index, n) :: e.ranges }
  match stop with
  | .address (.line n) => until' n
  | .address .last => if e.isLast then e else { e with ranges := (index, 0) :: e.ranges }
  | .address _ => { e with ranges := (index, 0) :: e.ranges }
  | .after n => until' (e.number + n)
  | .multiple n =>
    if n == 0 || e.number % n == 0 then e
    else { e with ranges := (index, (e.number / n + 1) * n) :: e.ranges }

/-- The line lies in the range of a command. -/
def inRange (e : Editor) (index : Nat) (command : EditCommand) (stop : RangeEnd) : Bool × Editor :=
  let started := command.fromZero && e.number == 1 && !e.closed.contains index &&
    (e.ranges.lookup index).isNone
  let e := if started then { e with ranges := (index, 0) :: e.ranges } else e
  let close := fun (e : Editor) =>
    { e with ranges := e.ranges.filter (·.1 != index), closed := index :: e.closed }
  match e.ranges.lookup index with
  | some n =>
    match stop with
    | .address (.matching r) =>
      let (found, e) := e.matchesSpace r
      (true, if found then close e else e)
    | .address .last => (true, if e.isLast then close e else e)
    | _ =>
      if e.number < n then (true, e)
      else if e.number == n then (true, close e)
      else
        let e := close e
        match command.first with
        | some first =>
          let (found, e) := e.fits first
          (found, if found then e.openRange index stop else e)
        | none => (false, e)
  | none =>
    match command.first with
    | some first =>
      if command.fromZero then (false, e)
      else
        let (found, e) := e.fits first
        (found, if found then e.openRange index stop else e)
    | none => (false, e)

/-- The command applies to the line. -/
def selects (e : Editor) (index : Nat) (command : EditCommand) : Bool × Editor :=
  let (found, e) := match command.first, command.second with
    | none, _ => (true, e)
    | some first, none => e.fits first
    | some _, some stop => e.inRange index command stop
  (found != command.negated, e)

/-- Changes letter case: all of a text, and its first letter. -/
def changeCase (lasting : CaseChange) (once : Option CaseChange) (cs : List Char) : List Char :=
  let cs := match lasting with
    | .upper => cs.map Char.toUpper
    | .lower => cs.map Char.toLower
    | _ => cs
  match once, cs with
  | some .upperNext, c :: rest => c.toUpper :: rest
  | some .lowerNext, c :: rest => c.toLower :: rest
  | _, cs => cs

def replacementText (parts : List Replacement) (found : Found) (text : Array Char) : List Char :=
  let (out, _, _) := parts.foldl (fun (out, lasting, once) part =>
    let add := fun (cs : List Char) =>
      if cs.isEmpty then (out, lasting, once)
      else (out ++ changeCase lasting once cs, lasting, none)
    match part with
    | .text cs => add cs
    | .group n => add (found.group text n)
    | .change .upperNext => (out, lasting, some .upperNext)
    | .change .lowerNext => (out, lasting, some .lowerNext)
    | .change c => (out, c, none)) (([] : List Char), CaseChange.keep, (none : Option CaseChange))
  out

/-- Replaces matches from a position on. `count` is the number of the next match, `previous` the end
of the last one; an empty match right behind it does not count. Gives what is written in reverse, and
whether something was replaced. -/
def replaceFrom (s : Substitution) (regex : Regex) (text : Array Char) :
    Nat → Nat → Nat → Option Nat → List Char → Bool → List Char × Bool
  | 0, _, _, _, out, done => (out, done)
  | fuel + 1, start, count, previous, out, done =>
    let rest := fun (from' : Nat) => (Regex.slice text from' text.size).reverse
    if text.size < start then (out, done)
    else match regex.find? s.regex.mode text start with
      | none => (rest start ++ out, done)
      | some found =>
        let before := (Regex.slice text start found.start).reverse
        let skipped := found.start == found.stop && previous == some found.start
        let replaced := !skipped && s.number ≤ count && (s.everywhere || count == s.number)
        let middle := if replaced then (replacementText s.replacement found text).reverse
          else (Regex.slice text found.start found.stop).reverse
        let out := middle ++ before ++ out
        let done := done || replaced
        let count := if skipped then count else count + 1
        if replaced && !s.everywhere then (rest found.stop ++ out, done)
        else if found.start == found.stop then
          let next := (Regex.slice text found.stop (found.stop + 1)).reverse
          replaceFrom s regex text fuel (found.stop + 1) count (some found.stop) (next ++ out) done
        else replaceFrom s regex text fuel found.stop count (some found.stop) out done

def substitute (e : Editor) (s : Substitution) : Editor :=
  match e.resolve s.regex with
  | (none, e) => e
  | (some regex, e) =>
    let text := e.space.toArray
    let (out, done) := replaceFrom s regex text (text.size + 2) 0 1 none [] false
    if !done then e
    else
      let e := { e with space := out.reverse, substituted := true }
      let e := if s.print then e.writeSpace else e
      match s.file with
      | some path => e.writeFile path (String.ofList e.space ++ "\n")
      | none => e

/-- A line in which all that cannot be seen is written with backslashes. -/
def visibleLine (cs : List Char) : List Char :=
  let shown := cs.map fun c => match c with
    | '\\' => ['\\', '\\']
    | '\x07' => ['\\', 'a']
    | '\x08' => ['\\', 'b']
    | '\x0c' => ['\\', 'f']
    | '\n' => ['\\', 'n']
    | '\r' => ['\\', 'r']
    | '\t' => ['\\', 't']
    | '\x0b' => ['\\', 'v']
    | c =>
      if ' ' ≤ c && c ≤ '~' then [c]
      else
        let digits := Nat.toDigits 8 c.toNat
        '\\' :: (List.replicate (3 - digits.length) '0' ++ digits)
  let (lines, _) := shown.foldl (fun ((lines : List Char), (n : Nat)) part =>
    if 69 < n + part.length then (part.reverse ++ '\n' :: '\\' :: lines, part.length)
    else (part.reverse ++ lines, n + part.length)) ([], 0)
  lines.reverse ++ ['$']

def firstLine (e : Editor) : List Char := e.space.takeWhile (· != '\n')

/-- Writes what was queued behind the space. -/
def flush (e : Editor) : Editor :=
  let e' := e.queue.reverse.foldl (fun (e : Editor) chunk =>
    if chunk.toErrors then
      match e.files.read (decode chunk.text) with
      | .ok bytes => if bytes.isEmpty then e else e.write (ofBytes bytes.toList)
      | .error _ => e
    else e.write chunk.text) e
  { e' with queue := [] }

/-- Where a label stands. -/
def labelAt (script : Array EditCommand) (name : String) : Nat :=
  if name.isEmpty then script.size
  else (script.findIdx? fun command => match command.action with
    | .label other => other == name
    | _ => false).getD script.size

/-- A step of a cycle: the commands go on at a position, or the cycle ends. -/
def perform (e : Editor) (script : Array EditCommand) (index : Nat) (command : EditCommand) :
    Editor × Except CycleEnd Nat :=
  let go := fun (e : Editor) => (e, Except.ok (index + 1))
  match command.action with
  | .block _ | .nothing | .label _ => go e
  | .substitute s => go (e.substitute s)
  | .replaceChars pairs => go { e with space := e.space.map fun c => (pairs.lookup c).getD c }
  | .print => go e.writeSpace
  | .printFirst => go (e.writeLine e.firstLine true)
  | .delete => (e, .error .dropped)
  | .deleteFirst =>
    if e.space.contains '\n' then
      ({ e with space := e.space.drop (e.firstLine.length + 1) }, .error .again)
    else (e, .error .dropped)
  | .next =>
    if e.rest.isEmpty then (e, .error (.finished true))
    else
      let e := (if e.quiet then e else e.writeSpace).flush
      match e.nextLine? with
      | some e => go { e with space := e.current.text }
      | none => (e, .error (.finished false))
  | .appendNext =>
    match e.flush.nextLine? with
    | some e => go { e with space := e.space ++ '\n' :: e.current.text }
    | none => (e, .error (.finished true))
  | .get => go { e with space := e.held }
  | .getAppend => go { e with space := e.space ++ '\n' :: e.held }
  | .hold => go { e with held := e.space }
  | .holdAppend => go { e with held := e.held ++ '\n' :: e.space }
  | .exchange => go { e with space := e.held, held := e.space }
  | .append text => go { e with queue := ⟨text, false⟩ :: e.queue }
  | .insert text => go (e.write text)
  | .change text =>
    let inside := command.second.isSome && (e.ranges.lookup index).isSome && !command.negated
    (if inside then e else e.write text, .error .dropped)
  | .lineNumber => go (e.write (numeral e.number ++ "\n"))
  | .visible => go (e.writeLine (visibleLine e.space) true)
  | .quit status print => ({ e with status }, .error (.finished print))
  | .readFile path => go { e with queue := ⟨path, true⟩ :: e.queue }
  | .writeFile path => go (e.writeFile path (String.ofList e.space ++ "\n"))
  | .writeFirst path => go (e.writeFile path (String.ofList e.firstLine ++ "\n"))
  | .branch label => (e, .ok (labelAt script label))
  | .branchIf label wanted =>
    if e.substituted == wanted then ({ e with substituted := false }, .ok (labelAt script label))
    else ({ e with substituted := false }, .ok (index + 1))
  | .clear => go { e with space := [] }
  | .fileName => go (e.write (e.current.file ++ "\n"))

/-- Runs commands from a position on; `fuel` bounds their number. -/
def runCommands (script : Array EditCommand) : Nat → Nat → Editor → Editor × CycleEnd
  | 0, _, e => (e, .finished false)
  | fuel + 1, index, e =>
    match script[index]? with
    | none => (e, .normal)
    | some command =>
      let (selected, e) := e.selects index command
      if selected then
        match e.perform script index command with
        | (e, .ok next) => runCommands script fuel next e
        | (e, .error ending) => (e, ending)
      else
        let next := match command.action with
          | .block stop => stop
          | _ => index + 1
        runCommands script fuel next e

/-- How many commands a cycle may run. -/
def maxSteps : Nat := 1000000

/-- Runs cycles until the input ends; `fuel` bounds their number. -/
def runCycles (script : Array EditCommand) : Nat → Bool → Editor → Editor
  | 0, _, e => e
  | fuel + 1, keep, e =>
    let ready := if keep then some e
      else (e.nextLine?).map fun e => { e with space := e.current.text, substituted := false }
    match ready with
    | none => e
    | some e =>
      let (e, ending) := runCommands script maxSteps 0 e
      let print := match ending with
        | .normal => true
        | .finished print => print
        | _ => false
      let e := (if print && !e.quiet then e.writeSpace else e).flush
      match ending with
      | .finished _ => e
      | .again => runCycles script fuel true e
      | _ => runCycles script fuel false e

end Editor

def inputLines (file text : String) : List InputLine :=
  let lines := fullLines text
  lines.mapIdx fun i line =>
    let cs := line.toList
    let ended := cs.getLast? == some '\n'
    ⟨if ended then cs.dropLast else cs, ended, file, i + 1 == lines.length⟩

def sed (c : Call) : Report :=
  let shape : Arguments.Shape :=
    { plain := "nErsuz", valued := "efl"
      long := [("quiet", 'n'), ("silent", 'n'), ("expression", 'e'), ("file", 'f'),
        ("regexp-extended", 'E'), ("separate", 's'), ("in-place", 'i')] }
  let isPlace := fun (argument : String) =>
    argument.startsWith "-i" || argument.startsWith "--in-place"
  let clustered : String → Bool := fun argument =>
    match argument.toList with
    | '-' :: rest => rest.head? != some '-' && rest.contains 'i' && rest.all fun ch =>
        ['n', 'E', 'r', 's', 'i', 'u', 'z'].contains ch
    | _ => false
  let places := c.arguments.filter fun a => isPlace a || clustered a
  let arguments := c.arguments.filterMap fun argument =>
    if isPlace argument then none
    else if clustered argument then
      some (String.ofList (argument.toList.takeWhile (· != 'i')))
    else some argument
  let inPlace := !places.isEmpty
  let suffix := String.ofList (((places.filter (·.startsWith "-i")).headD "").toList.drop 2)
  let c := { c with arguments }
  c.withArguments shape 1 fun a =>
    let given := a.options.filterMap fun o =>
      if o.1 == 'e' then some o.2
      else if o.1 == 'f' then (c.read o.2).toOption.map fun text =>
        if text.endsWith "\n" then String.ofList text.toList.dropLast else text
      else none
    let (script, operands) := if a.has 'e' || a.has 'f' then ("\n".intercalate given, a.operands)
      else (a.operands.headD "", a.operands.drop 1)
    if a.operands.isEmpty && !a.has 'e' && !a.has 'f' then
      c.fail 1 "no script specified"
    else match readScript (a.has 'E' || a.has 'r') script with
      | .error message =>
        if message.startsWith "can't" then c.fail 1 message
        else
          let size := if message.startsWith "unmatched" then 0 else script.length
          c.fail 1 ("-e expression #1, char " ++ numeral size ++ ": " ++ message)
      | .ok commands =>
        let quiet := a.has 'n' || script == "#n" || script.startsWith "#n\n"
        let edit := fun (fs : Files) (lines : List InputLine) =>
          Editor.runCycles commands.toArray (2 * lines.length + 1000000) false
            { rest := lines, files := fs, quiet, separate := a.has 's' || inPlace }
        let sources := if operands.isEmpty then ["-"] else operands
        let read := fun (r : Report) (path : String) =>
          if Call.isInput path then .ok (String.ofList (c.input.toList.drop r.taken))
          else (c.read path)
        let failure := fun (path : String) (e : PathError) =>
          if e == .isDirectory then "couldn't edit " ++ path ++ ": not a regular file"
          else "can't read " ++ path ++ ": " ++ e.text
        if inPlace then
          sources.foldl (fun r path =>
            match c.files.entry (decode path), (r.files.read (decode path)) with
            | .ok _, .ok bytes =>
              let e := edit r.files (inputLines path (ofBytes bytes.toList))
              let text := String.join ((e.output.filter (!·.toErrors)).reverse.map (·.text))
              let kept := if suffix.isEmpty then .ok e.files
                else e.files.write (decode (path ++ suffix)) bytes.toList false
              match kept.bind fun fs => fs.write (decode path) (toBytes text) false with
              | .ok files => { r with files, status := max r.status e.status }
              | .error e => r.warn c.label (failure path e) 4
            | .error e, _ | _, .error e =>
              r.warn c.label (failure path e) (if e == .isDirectory then 4 else 2)) c.quiet
        else
          let (lines, r) := sources.foldl (fun ((lines : List InputLine), (r : Report)) path =>
            match read r path with
            | .ok text =>
              let r := if Call.isInput path then { r with taken := c.input.length } else r
              (lines ++ inputLines path text, r)
            | .error e =>
              let message := if e == .isDirectory then "couldn't read " ++ path ++ ": " ++ e.text
                else failure path e
              (lines, r.warn c.label message 2)) (([] : List InputLine), c.quiet)
          let e := edit c.files lines
          let left := e.rest.foldl (fun n line => n + line.text.length + 1) 0
          let taken := if c.seekable && operands.isEmpty then r.taken - left else r.taken
          { r with
            files := e.files, taken
            chunks := e.output ++ r.chunks
            status := if e.status != 0 then e.status else r.status }

end StackVM.Shell.Editing
