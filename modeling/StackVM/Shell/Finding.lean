import StackVM.Shell.Lookup
import StackVM.Shell.Expansion
import StackVM.Shell.Regex.Reader
import StackVM.Shell.Utility.Listing

/-! # Walking through directories

`find` goes through all that lies below some paths and applies an expression of tests and actions to
each entry.
-/

namespace StackVM.Shell.Finding

/-- A size with a comparison: less, equal or more. -/
structure Amount where
  sign : Ordering
  value : Nat

inductive Expr where
  | always (value : Bool)
  | name (pattern : List GlobItem) (foldCase : Bool)
  | path (pattern : List GlobItem) (foldCase : Bool)
  | kind (letters : List Char)
  | empty
  | size (amount : Amount) (unit : Nat)
  | permission (mode : Nat) (mark : Char)
  | newer (time : Int)
  | links (amount : Amount)
  | same (entry : Entry)
  | linkName (pattern : List GlobItem)
  | regex (expression : Regex) (foldCase : Bool)
  | executable
  | print (ending : String)
  | printf (format : List Char)
  | execute (words : List String) (together inDirectory : Bool)
  | ask (words : List String)
  | delete
  | prune
  | quit
  | negated (e : Expr)
  | both (a b : Expr)
  | either (a b : Expr)
  | list (a b : Expr)
deriving Inhabited

/-- The expression does something by itself. -/
def Expr.acts : Expr → Bool
  | .print _ | .printf _ | .execute _ _ _ | .ask _ | .delete => true
  | .negated e => e.acts
  | .both a b | .either a b | .list a b => a.acts || b.acts
  | _ => false

/-- The formats in an expression. -/
def Expr.formats : Expr → List (List Char)
  | .printf format => [format]
  | .negated e => e.formats
  | .both a b | .either a b | .list a b => a.formats ++ b.formats
  | _ => []

/-- Options of the whole walk. -/
structure Limits where
  most : Option Nat := none
  least : Nat := 0
  depthFirst : Bool := false
  follow : Bool := false
  /-- Expressions are written in the extended style. -/
  extended : Bool := false

/-- An amount such as `+3`, `-3` or `3`. -/
def Amount.ofText? (text : List Char) : Option Amount :=
  let number? := fun (cs : List Char) =>
    if cs.isEmpty || !cs.all Char.isDigit then none else some (readNatural 10 0 cs).1
  match text with
  | '+' :: rest => (number? rest).map fun n => ⟨.gt, n⟩
  | '-' :: rest => (number? rest).map fun n => ⟨.lt, n⟩
  | rest => (number? rest).map fun n => ⟨.eq, n⟩

def Amount.fits (a : Amount) (n : Nat) : Bool := compare n a.value == a.sign

def patternOf (text : String) : List GlobItem :=
  let rec cells : List Char → List Cell
    | '\\' :: c :: rest => ⟨c, true⟩ :: cells rest
    | c :: rest => ⟨c, false⟩ :: cells rest
    | [] => []
  Glob.items (cells text.toList)

/-- The size of a unit by its letter. -/
def unitOf : Char → Option Nat
  | 'b' => some 512
  | 'c' => some 1
  | 'w' => some 2
  | 'k' => some 1024
  | 'M' => some 1048576
  | 'G' => some 1073741824
  | _ => none

/-- A size such as `+3k`. -/
def sizeTest (text : String) : Except String Expr :=
  let cs := text.toList
  let bad := .error ("invalid -size type \x60" ++ String.ofList (cs.getLast?.toList) ++ "'")
  match cs.getLast?.bind unitOf with
  | some unit => match Amount.ofText? cs.dropLast with
    | some a => .ok (.size a unit)
    | none => .error ("Invalid argument \x60" ++ text ++ "' to -size")
  | none => match Amount.ofText? cs with
    | some a => .ok (.size a 512)
    | none => bad

/-- The letters of `-type`, which are separated by commas. -/
def kindTest (text : String) : Except String Expr :=
  let kinds := text.toList.splitOn ','
  match kinds.find? fun k => k.length != 1 with
  | some [] => .error "Last file type in list argument to -type is missing, i.e., list is ending on: ','"
  | some _ => .error "Must separate multiple arguments to -type using: ','"
  | none =>
    match kinds.flatten.find? fun c => !"bcdpfls".toList.contains c with
    | some c => .error ("Unknown argument to -type: " ++ String.ofList [c])
    | none => .ok (.kind kinds.flatten)

/-- An expression in which parentheses, bars and braces need a backslash to be special, written so
that they need none. -/
def extendedText : List Char → List Char
  | '\\' :: c :: rest =>
    if "()|".toList.contains c then c :: extendedText rest
    else if c == '\x7b' || c == '\x7d' then '\\' :: c :: extendedText rest
    else '\\' :: c :: extendedText rest
  | c :: rest =>
    if "()|\x7b\x7d".toList.contains c then '\\' :: c :: extendedText rest
    else c :: extendedText rest
  | [] => []

/-- Reads an expression: gives it, what is left, and the limits. -/
abbrev ExprReading := Except String (Expr × List String × Limits)

/-- A name in a message. -/
def ticked (name : String) : String := "\x60" ++ name ++ "'"

/-- A number that an option of the whole walk needs. -/
def depthOf (name : String) (rest : List String) : Except String (Nat × List String) :=
  match rest with
  | [] => .error ("missing argument to " ++ ticked name)
  | value :: rest =>
    if value.isEmpty || !value.toList.all Char.isDigit then
      .error ("Expected a positive decimal integer argument to " ++ name ++ ", but got '" ++ value ++
        "'")
    else .ok ((readNatural 10 0 value.toList).1, rest)

/-- The command of an action that runs a program. -/
def readExecution (name : String) (rest : List String) (l : Limits) : ExprReading :=
  let braces := "\x7b\x7d"
  let words := rest.takeWhile fun w => w != ";"
  let upToPlus := rest.takeWhile fun w => w != "+"
  let together := upToPlus.length < words.length && upToPlus.getLast? == some braces
  let oddPlus := upToPlus.length < words.length && upToPlus.length < rest.length &&
    words.length == rest.length
  if !together && oddPlus then
    match upToPlus.getLast? with
    | some word =>
      if (word.splitOn braces).length ≤ 1 then .error ("missing argument to " ++ ticked name)
      else .error ("In '" ++ name ++ " ... " ++ braces ++ " +' the '" ++ braces ++
        "' must appear by itself, but you specified '" ++ word ++ "'")
    | none => .error ("missing argument to " ++ ticked name)
  else
    let words := if together then upToPlus.dropLast else words
    let used := if together then upToPlus.length else words.length
    if rest.length ≤ used || words.isEmpty then .error ("missing argument to " ++ ticked name)
    else if together && words.contains braces then
      .error ("Only one instance of " ++ braces ++ " is supported with " ++ name ++ " ... +")
    else if name == "-ok" then .ok (.ask words, rest.drop (used + 1), l)
    else .ok (.execute words together (name == "-execdir"), rest.drop (used + 1), l)

/-- A single test or action behind its name. -/
def readPrimary (files : Files) (name : String) (rest : List String) (l : Limits) : ExprReading :=
  let withValue := fun (make : String → Except String Expr) =>
    match rest with
    | value :: rest => (make value).map fun e => (e, rest, l)
    | [] => .error ("missing argument to " ++ ticked name)
  let amount := fun (v : String) (make : Amount → Expr) =>
    match Amount.ofText? v.toList with
    | some a => .ok (make a)
    | none => .error ("invalid argument " ++ ticked v ++ " to " ++ ticked name)
  let entry := fun (v : String) (make : Entry → Expr) =>
    match files.entry? (decode v) with
    | some e => .ok (make e)
    | none => .error (Paths.quoted v ++ ": No such file or directory")
  let regex := fun (v : String) (foldCase : Bool) =>
    match Regex.ofText true (if l.extended then v.toList else extendedText v.toList) with
    | .ok (r, _) => .ok (.regex r foldCase)
    | .error _ => .error ("failed to compile regular expression " ++ Paths.quoted v)
  let plain := fun (e : Expr) => .ok (e, rest, l)
  match name with
  | "-name" => withValue fun v => .ok (.name (patternOf v) false)
  | "-iname" => withValue fun v => .ok (.name (patternOf v) true)
  | "-path" | "-wholename" => withValue fun v => .ok (.path (patternOf v) false)
  | "-ipath" | "-iwholename" => withValue fun v => .ok (.path (patternOf v) true)
  | "-lname" => withValue fun v => .ok (.linkName (patternOf v))
  | "-regex" => withValue fun v => regex v false
  | "-iregex" => withValue fun v => regex v true
  | "-regextype" =>
    match rest with
    | value :: rest => .ok (.always true, rest, { l with
        extended := ["posix-extended", "egrep", "posix-egrep", "awk", "gnu-awk",
          "posix-awk"].contains value })
    | [] => .error ("missing argument to " ++ ticked name)
  | "-type" => withValue kindTest
  | "-size" => withValue sizeTest
  | "-perm" => withValue fun v =>
      let mark := v.toList.headD ' '
      let digits := if mark == '-' || mark == '/' then String.ofList (v.toList.drop 1) else v
      match Permissions.ofText? digits false 0 0 with
      | some mode => .ok (.permission mode mark)
      | none => .error ("invalid mode " ++ Paths.quoted v)
  | "-newer" | "-anewer" | "-cnewer" =>
    withValue fun v => entry v fun e => .newer (Listing.timeOf files e)
  | "-samefile" => withValue fun v => entry v .same
  | "-links" => withValue fun v => amount v .links
  | "-inum" => withValue fun v => amount v fun _ => .always false
  | "-mtime" | "-mmin" | "-atime" | "-amin" | "-ctime" | "-cmin" => withValue fun v =>
      amount v fun a => .always (a.fits 0)
  | "-user" => withValue fun v =>
      if v == "root" || (!v.isEmpty && v.toList.all Char.isDigit) then
        .ok (.always (v == "root" || v == "0"))
      else .error (Paths.quoted v ++ " is not the name of a known user")
  | "-group" => withValue fun v =>
      if v == "root" || (!v.isEmpty && v.toList.all Char.isDigit) then
        .ok (.always (v == "root" || v == "0"))
      else .error (Paths.quoted v ++ " is not the name of an existing group")
  | "-maxdepth" => do
    let (n, rest) ← depthOf name rest
    return (.always true, rest, { l with most := some n })
  | "-mindepth" => do
    let (n, rest) ← depthOf name rest
    return (.always true, rest, { l with least := n })
  | "-depth" | "-d" => .ok (.always true, rest, { l with depthFirst := true })
  | "-follow" => .ok (.always true, rest, { l with follow := true })
  | "-xdev" | "-mount" | "-noleaf" | "-daystart" | "-warn" | "-nowarn" => plain (.always true)
  | "-empty" => plain .empty
  | "-true" => plain (.always true)
  | "-false" => plain (.always false)
  | "-executable" => plain .executable
  | "-readable" | "-writable" => plain (.always true)
  | "-print" => plain (.print "\n")
  | "-print0" => plain (.print "\x00")
  | "-printf" => withValue fun v => .ok (.printf v.toList)
  | "-delete" => .ok (.delete, rest, { l with depthFirst := true })
  | "-prune" => plain .prune
  | "-quit" => plain .quit
  | "-exec" | "-execdir" | "-ok" => readExecution name rest l
  | ")" => .error "you have too many ')'"
  | "-o" | "-or" | "-a" | "-and" | "," =>
    .error ("invalid expression; you have used a binary operator '" ++ name ++
      "' with nothing before it.")
  | other =>
    if other.startsWith "-" then .error ("unknown predicate " ++ ticked other)
    else .error ("paths must precede expression: " ++ ticked other)

/-- An operator needs something behind it. -/
def needMore (operator : String) (rest : List String) : Except String Unit :=
  if rest.isEmpty then .error ("expected an expression after '" ++ operator ++ "'") else .ok ()

mutual

/-- Expressions one after the other, of which the last one counts. -/
def readList (files : Files) : Nat → List String → Limits → ExprReading
  | 0, _, _ => .error "too deep"
  | fuel + 1, words, l => do
    let (a, rest, l) ← readOr files fuel words l
    match rest with
    | "," :: rest =>
      let (b, rest, l) ← readList files fuel rest l
      return (.list a b, rest, l)
    | rest => return (a, rest, l)

def readOr (files : Files) : Nat → List String → Limits → ExprReading
  | 0, _, _ => .error "too deep"
  | fuel + 1, words, l => do
    let (a, rest, l) ← readAnd files fuel words l
    match rest with
    | "-o" :: rest | "-or" :: rest =>
      needMore "-o" rest
      let (b, rest, l) ← readOr files fuel rest l
      return (.either a b, rest, l)
    | rest => return (a, rest, l)

def readAnd (files : Files) : Nat → List String → Limits → ExprReading
  | 0, _, _ => .error "too deep"
  | fuel + 1, words, l => do
    let (a, rest, l) ← readNot files fuel words l
    match rest with
    | [] | "-o" :: _ | "-or" :: _ | ")" :: _ | "," :: _ => return (a, rest, l)
    | "-a" :: rest | "-and" :: rest =>
      needMore "-a" rest
      let (b, rest, l) ← readAnd files fuel rest l
      return (.both a b, rest, l)
    | rest =>
      let (b, rest, l) ← readAnd files fuel rest l
      return (.both a b, rest, l)

/-- A test, its opposite, or an expression in parentheses. -/
def readNot (files : Files) : Nat → List String → Limits → ExprReading
  | 0, _, _ => .error "too deep"
  | _, [], _ => .error "expected an expression"
  | fuel + 1, word :: rest, l => do
    match word with
    | "!" | "-not" =>
      needMore word rest
      let (e, rest, l) ← readNot files fuel rest l
      return (.negated e, rest, l)
    | "(" =>
      let (e, rest, l) ← readList files fuel rest l
      match rest with
      | ")" :: rest => return (e, rest, l)
      | _ => .error "invalid expression; I was expecting to find a ')' somewhere but did not see one."
    | word => readPrimary files word rest l

end

/-- An entry that is visited. -/
structure Visit where
  path : String
  /-- The path at which the walk started. -/
  start : String
  depth : Nat
  entry : Entry

/-- A walk: the session, the paths that wait to be handled together, and what to do next. -/
structure Walk where
  session : Session
  waiting : List (List String × List String) := []
  pruned : Bool := false
  stopped : Bool := false
  failed : Bool := false

/-- Words in which a pair of braces stands for a path. -/
def fillIn (path : String) (words : List String) : List String :=
  words.map fun word => path.intercalate (word.splitOn "\x7b\x7d")

/-- What a letter of `-printf` stands for. -/
def directive? (fs : Files) (v : Visit) : Char → Option String
  | 'p' => some v.path
  | 'f' => some (Paths.baseName v.path)
  | 'h' => some (Paths.directoryName v.path)
  | 'H' => some v.start
  | 'P' => some (String.ofList ((v.path.toList.drop v.start.length).dropWhile (· == '/')))
  | 'd' => some (numeral v.depth)
  | 's' => some (numeral (Condition.size fs v.entry))
  | 'b' => some (numeral (2 * Listing.blocksOf fs v.entry))
  | 'k' => some (numeral (Listing.blocksOf fs v.entry))
  | 'm' => some (String.ofList (Nat.toDigits 8 (fs.mode v.entry)))
  | 'M' => some (String.ofList [Permissions.kindLetter v.entry] ++
      Permissions.text (fs.mode v.entry))
  | 'y' => some (match v.entry with
    | .file _ => "f"
    | e => String.ofList [Permissions.kindLetter e])
  | 'u' | 'g' => some "root"
  | 'U' | 'G' => some "0"
  | 'n' => some (numeral (fs.links v.entry))
  | 'l' => some (match v.entry with
    | .link target => encode target
    | _ => "")
  | '%' => some "%"
  | _ => none

/-- An entry in a format of `-printf`; `fuel` bounds the length of the format. -/
def printfText (fs : Files) (v : Visit) : Nat → List Char → List Char
  | 0, rest => rest
  | _, [] => []
  | fuel + 1, '\\' :: c :: rest =>
    let digits := (c :: rest).take 3 |>.takeWhile fun c => '0' ≤ c && c ≤ '7'
    if digits.isEmpty then
      let made := match c with
        | 'a' => ['\x07']
        | 'b' => ['\x08']
        | 'f' => ['\x0c']
        | 'n' => ['\n']
        | 'r' => ['\r']
        | 't' => ['\t']
        | 'v' => ['\x0b']
        | '\\' => ['\\']
        | c => ['\\', c]
      made ++ printfText fs v fuel rest
    else Char.ofNat ((readNatural 8 0 digits).1 % 256) ::
      printfText fs v fuel ((c :: rest).drop digits.length)
  | fuel + 1, '%' :: rest =>
    let flags := rest.takeWhile fun c => c == '-' || c == '0'
    let behind := rest.drop flags.length
    let digits := behind.takeWhile Char.isDigit
    let width := (readNatural 10 0 digits).1
    match behind.drop digits.length with
    | letter :: more =>
      match directive? fs v letter with
      | some text =>
        let padding := List.replicate (width - text.length) ' '
        (if flags.contains '-' then text.toList ++ padding else padding ++ text.toList) ++
          printfText fs v fuel more
      | none => '%' :: printfText fs v fuel rest
    | [] => '%' :: rest
  | fuel + 1, c :: rest => c :: printfText fs v fuel rest

/-- The letters in a format of `-printf` that stand for nothing. -/
def unknownLetters : Nat → List Char → List Char
  | 0, _ => []
  | _, [] => []
  | fuel + 1, '%' :: rest =>
    match rest.dropWhile fun c => c == '-' || c.isDigit with
    | letter :: more =>
      (if "pfhHPdsbkmMyugUGnl%aActTYi".toList.contains letter then [] else [letter]) ++
        unknownLetters fuel more
    | [] => []
  | fuel + 1, _ :: rest => unknownLetters fuel rest

/-- The letter for the kind of an entry. -/
def kindOf : Entry → Char
  | .file _ => 'f'
  | e => Permissions.kindLetter e

def apply (run : Runner) (v : Visit) : Expr → Walk → Bool × Walk
  | .always value, w => (value, w)
  | .name pattern foldCase, w =>
    let name := Paths.baseName v.path
    (matchText pattern foldCase name, w)
  | .path pattern foldCase, w => (matchText pattern foldCase v.path, w)
  | .kind letters, w => (letters.contains (kindOf v.entry), w)
  | .empty, w =>
    (match v.entry with
      | .file number => (w.session.files.body number).bytes.isEmpty
      | .directory _ entries => entries.isEmpty
      | _ => false, w)
  | .size amount unit, w =>
    (amount.fits ((Condition.size w.session.files v.entry + unit - 1) / max unit 1), w)
  | .permission mode mark, w =>
    let own := w.session.files.mode v.entry
    (match mark with
      | '-' => own &&& mode == mode
      | '/' => mode == 0 || own &&& mode != 0
      | _ => own == mode, w)
  | .newer time, w => (time < Listing.timeOf w.session.files v.entry, w)
  | .links amount, w => (amount.fits (w.session.files.links v.entry), w)
  | .same e, w => (Files.sameFile (some e) (some v.entry), w)
  | .linkName pattern, w =>
    (match v.entry with
      | .link target => Glob.accepts pattern (encode target).toList
      | _ => false, w)
  | .regex expression foldCase, w =>
    let text := v.path.toList.toArray
    ((expression.matchAt? { foldCase } text 0).any fun found => found.stop == text.size, w)
  | .ask words, w =>
    (false, { w with session := w.session.emit 2 ("< " ++ words.headD "" ++ " ... " ++ v.path ++
      " > ? ") })
  | .executable, w => (v.entry.isDirectory || Lookup.isExecutable (w.session.files.mode v.entry), w)
  | .print ending, w => (true, { w with session := w.session.emit 1 (v.path ++ ending) })
  | .printf format, w =>
    (true, { w with session :=
      w.session.emit 1 (String.ofList (printfText w.session.files v (format.length + 1) format)) })
  | .execute words true _, w =>
    let others := w.waiting.filter (·.1 != words)
    (true, { w with waiting := others ++ [(words, (w.waiting.lookup words).getD [] ++ [v.path])] })
  | .execute words false inDirectory, w =>
    let path := if inDirectory then "./" ++ Paths.baseName v.path else v.path
    let s := run (.program (fillIn path words)) w.session
    (s.status == 0, { w with session := s })
  | .delete, w =>
    let s := w.session
    let step := if v.entry.isDirectory then s.files.removeDirectory (decode v.path)
      else s.files.remove (decode v.path)
    match step with
    | .ok files => (true, { w with session := { s with files } })
    | .error e => (false, { w with
        failed := true
        session := s.emit 2 ("find: cannot delete " ++ Paths.quoted v.path ++ ": " ++ e.text ++ "\n") })
  | .prune, w => (true, { w with pruned := true })
  | .quit, w => (true, { w with stopped := true })
  | .negated e, w =>
    let (value, w) := apply run v e w
    (!value, w)
  | .both a b, w =>
    let (value, w) := apply run v a w
    if value && !w.stopped then apply run v b w else (value, w)
  | .either a b, w =>
    let (value, w) := apply run v a w
    if value || w.stopped then (value, w) else apply run v b w
  | .list a b, w =>
    let (_, w) := apply run v a w
    apply run v b w
where
  /-- A text matches a pattern. -/
  matchText (pattern : List GlobItem) (foldCase : Bool) (text : String) : Bool :=
    if foldCase then Glob.accepts (pattern.map lowered) (text.toList.map Char.toLower)
    else Glob.accepts pattern text.toList
  /-- An item of a pattern in small letters. -/
  lowered : GlobItem → GlobItem
    | .literal c => .literal c.toLower
    | item => item

/-- Visits an entry and all below it; `fuel` bounds how deeply directories are nested. -/
def visit (run : Runner) (l : Limits) (e : Expr) : Nat → Visit → Walk → Walk
  | 0, _, w => w
  | fuel + 1, v, w =>
    if w.stopped || !w.session.isRunning then w
    else
      let handle := fun (w : Walk) =>
        if v.depth < l.least then w else (apply run v e { w with pruned := false }).2
      let below := fun (w : Walk) =>
        match v.entry with
        | .directory _ entries =>
          if l.most.any (· ≤ v.depth) || w.pruned then w
          else entries.foldl (fun w (name, inner) =>
            visit run l e fuel ⟨Paths.join v.path (encode name), v.start, v.depth + 1, inner⟩ w) w
        | _ => w
      if l.depthFirst then handle (below { w with pruned := false })
      else
        let w := handle { w with pruned := false }
        { below w with pruned := false }

/-- Walks through directories. -/
def find (run : Runner) (arguments : List String) (s : Session) : Session :=
  let (flags, arguments) := (arguments.takeWhile fun a => ["-H", "-L", "-P"].contains a,
    arguments.dropWhile fun a => ["-H", "-L", "-P"].contains a)
  let isPath := fun (a : String) => !(a.startsWith "-" && a != "-" || a == "!" || a == "(" || a == ")"
    || a == ",")
  let paths := arguments.takeWhile isPath
  let words := arguments.drop paths.length
  let paths := if paths.isEmpty then ["."] else paths
  let read := if words.isEmpty then .ok (.always true, [], {})
    else readList s.files (8 * words.length + 16) words {}
  let complain := fun (message : String) => { s.emit 2 ("find: " ++ message ++ "\n") with status := 1 }
  match read with
  | .error message => complain message
  | .ok (_, ")" :: _, _) => complain "you have too many ')'"
  | .ok (_, extra :: _, _) => complain ("paths must precede expression: " ++ ticked extra)
  | .ok (e, [], l) =>
    let letters := e.formats.flatMap fun format => unknownLetters (format.length + 1) format
    let s := letters.foldl (fun s letter => s.emit 2 ("find: warning: unrecognized format directive " ++
      ticked (String.ofList ['%', letter]) ++ "\n")) s
    let e := if e.acts then e else .both e (.print "\n")
    let l := { l with follow := l.follow || flags.contains "-L" }
    let w := paths.foldl (fun (w : Walk) path =>
      let found := if l.follow then w.session.files.entry? (decode path)
        else w.session.files.entryOrLink? (decode path)
      match found with
      | some entry => visit run l e 1000 ⟨path, path, 0, entry⟩ w
      | none => { w with
          failed := true
          session := w.session.emit 2 ("find: " ++ Paths.quoted path ++
            ": No such file or directory\n") }) { session := { s with status := 0 } }
    let s := w.waiting.foldl (fun s (words, paths) => run (.program (words ++ paths)) s) w.session
    { s with status := if w.failed || (!w.waiting.isEmpty && s.status != 0) then 1 else 0 }

end StackVM.Shell.Finding
