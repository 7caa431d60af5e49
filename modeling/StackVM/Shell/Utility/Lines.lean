import StackVM.Shell.Utility.Basic

/-! # Utilities on lines -/

namespace StackVM.Shell.Lines

/-- A text on the right of a column. -/
def padLeft (width : Nat) (text : String) : String :=
  String.ofList (List.replicate (width - text.length) ' ' ++ text.toList)

/-- The multipliers that may stand behind a number. -/
def multiplier? (suffix : String) : Option Nat :=
  match suffix with
  | "" => some 1
  | "b" => some 512
  | "kB" | "KB" => some 1000
  | "k" | "K" | "KiB" => some 1024
  | "MB" => some 1000000
  | "M" | "MiB" => some 1048576
  | "GB" => some 1000000000
  | "G" | "GiB" => some 1073741824
  | _ => none

/-- A count that may have a multiplier. -/
def count? (text : List Char) : Option Nat :=
  let digits := text.takeWhile Char.isDigit
  if digits.isEmpty then none
  else (multiplier? (String.ofList (text.drop digits.length))).map fun m =>
    (readNatural 10 0 digits).1 * m

/-- Bytes that cannot be shown are written with a caret or behind `M-`. -/
def visible (c : Char) : List Char :=
  let low := fun (n : Nat) =>
    if n < 32 then ['^', Char.ofNat (n + 64)]
    else if n = 127 then ['^', '?']
    else [Char.ofNat n]
  if c.toNat < 128 then low c.toNat else 'M' :: '-' :: low (c.toNat - 128)

/-- Lines in which at most one empty line follows another. -/
def squeeze : List String → List String
  | "\n" :: "\n" :: rest => squeeze ("\n" :: rest)
  | line :: rest => line :: squeeze rest
  | [] => []

def number (nonempty : Bool) (start : Nat) : List String → List String
  | [] => []
  | line :: rest =>
    if nonempty && line == "\n" then line :: number nonempty start rest
    else (padLeft 6 (numeral start) ++ "\t" ++ line) :: number nonempty (start + 1) rest

def cat (c : Call) : Report :=
  let shape : Arguments.Shape :=
    { plain := "AbeEnstTuv"
      long := [("number", 'n'), ("number-nonblank", 'b'), ("squeeze-blank", 's'), ("show-all", 'A'),
        ("show-ends", 'E'), ("show-tabs", 'T'), ("show-nonprinting", 'v')] }
  c.withArguments shape 1 fun a =>
    let on := fun (letters : List Char) => letters.any a.has
    if a.options.all fun o => o.1 == 'u' then
      let r := c.eachSource a.sources c.quiet fun r _ text => r.print text
      if c.inputFault == some .badDescriptor && a.sources.any Call.isInput then
        r.warn c.label "closing standard input: Bad file descriptor" 1
      else r
    else
      let (text, r) := c.gather a.sources
      let lines := fullLines text
      let lines := if a.has 's' then squeeze lines else lines
      let lines := lines.map fun line => String.ofList (line.toList.flatMap fun ch =>
        if ch == '\n' then if on ['E', 'A', 'e'] then ['$', '\n'] else ['\n']
        else if ch == '\t' then if on ['T', 'A', 't'] then ['^', 'I'] else ['\t']
        else if on ['v', 'A', 'e', 't'] then visible ch
        else [ch])
      let ended := if on ['E', 'A', 'e'] then "$\n" else "\n"
      let lines := if a.has 'b' then
          (number true 1 (lines.map fun l => if l == ended then "\n" else l)).map fun l =>
            if l == "\n" then ended else l
        else if a.has 'n' then number false 1 lines else lines
      r.print (String.join lines)

/-- An old-fashioned option such as `-5` in front becomes a new one. -/
def modernize (letter : Char) (arguments : List String) : List String :=
  match arguments.map String.toList with
  | ('-' :: d :: rest) :: _ =>
    if d.isDigit then
      let digits := (d :: rest).takeWhile Char.isDigit
      let unit := rest.drop (digits.length - 1)
      let letter := if unit.head? == some 'c' then 'c' else letter
      ("-" ++ String.ofList (letter :: digits)) :: arguments.drop 1
    else arguments
  | _ => arguments

def unreadable (path : String) (e : PathError) : String :=
  if e == .isDirectory then "error reading '" ++ path ++ "': " ++ e.text
  else "cannot open '" ++ path ++ "' for reading: " ++ e.text

/-- Writes a title before each of several files. -/
def withTitles (c : Call) (a : Arguments) (verbose : Bool) (cut : String → String) : Report :=
  let titled := (1 < a.operands.length || verbose) && !a.has 'q'
  c.eachSourceOr unreadable a.sources c.quiet fun r path text =>
    let first := !(r.chunks.any fun chunk => !chunk.toErrors)
    let name := if Call.isInput path then "standard input" else path
    let title := if !titled then "" else (if first then "" else "\n") ++ "==> " ++ name ++ " <==\n"
    r.print (title ++ cut text)

/-- What a utility takes of an input that cannot be given back is a number of full blocks. -/
def blocks (c : Call) (taken : Nat) : Nat :=
  if c.seekable then taken else min c.input.length ((taken + 8191) / 8192 * 8192)

def head (c : Call) : Report :=
  let shape : Arguments.Shape :=
    { plain := "qvz", valued := "nc"
      long := [("lines", 'n'), ("bytes", 'c'), ("quiet", 'q'), ("silent", 'q'), ("verbose", 'v')] }
  let c := { c with arguments := modernize 'n' c.arguments }
  c.withArguments shape 1 fun a =>
    let unit := ((a.options.reverse.find? fun o => o.1 == 'n' || o.1 == 'c').map (·.1)).getD 'n'
    let amount := ((a.value? unit).getD "10").toList
    let negative := amount.head? == some '-'
    let digits := if negative || amount.head? == some '+' then amount.drop 1 else amount
    match count? digits with
    | none =>
      c.fail 1 ("invalid number of " ++ (if unit == 'c' then "bytes" else "lines") ++ ": '" ++
        String.ofList amount ++ "'")
    | some n =>
      let cut := fun (text : String) =>
        if unit == 'c' then
          let cs := text.toList
          String.ofList (cs.take (if negative then cs.length - n else n))
        else
          let lines := fullLines text
          String.join (lines.take (if negative then lines.length - n else n))
      let r := withTitles c a (a.has 'v') cut
      if r.taken == 0 || negative then r
      else
        let size := (cut c.input).length
        { r with taken := if unit == 'c' then size else blocks c size }

def tail (c : Call) : Report :=
  let shape : Arguments.Shape :=
    { plain := "qvfFz", valued := "ncs"
      long := [("lines", 'n'), ("bytes", 'c'), ("quiet", 'q'), ("silent", 'q'), ("verbose", 'v')] }
  let c := { c with arguments := modernize 'n' c.arguments }
  c.withArguments shape 1 fun a =>
    let unit := ((a.options.reverse.find? fun o => o.1 == 'n' || o.1 == 'c').map (·.1)).getD 'n'
    let amount := ((a.value? unit).getD "10").toList
    let fromStart := amount.head? == some '+'
    let digits := if fromStart || amount.head? == some '-' then amount.drop 1 else amount
    match count? digits with
    | none =>
      c.fail 1 ("invalid number of " ++ (if unit == 'c' then "bytes" else "lines") ++ ": '" ++
        String.ofList amount ++ "'")
    | some n =>
      withTitles c a (a.has 'v') fun text =>
        if unit == 'c' then
          let cs := text.toList
          String.ofList (cs.drop (if fromStart then n - 1 else cs.length - n))
        else
          let lines := fullLines text
          String.join (lines.drop (if fromStart then n - 1 else lines.length - n))

def tac (c : Call) : Report :=
  let describe := fun (path : String) (e : PathError) =>
    if e == .isDirectory then path ++ ": read error: " ++ e.text
    else "failed to open '" ++ path ++ "' for reading: " ++ e.text
  c.withArguments { plain := "b" } 1 fun a =>
    c.eachSourceOr describe a.sources c.quiet fun r _ text =>
      r.print (String.join (fullLines text).reverse)

def rev (c : Call) : Report :=
  c.withArguments {} 1 fun a =>
    c.eachSource a.sources c.quiet fun r _ text =>
      r.print (String.join ((fullLines text).map fun line =>
        let cs := line.toList
        if cs.getLast? == some '\n' then String.ofList (cs.dropLast.reverse ++ ['\n'])
        else String.ofList cs.reverse))

/-- What is counted in a text. -/
structure Count where
  lines : Nat := 0
  words : Nat := 0
  bytes : Nat := 0
  longest : Nat := 0

def wordCount (text : List Char) : Nat :=
  (text.foldl (fun (n, inside) c =>
    if isSpace c then (n, false) else if inside then (n, true) else (n + 1, true)) (0, false)).1

/-- The width of a line on a screen with stops at every eighth column. -/
def lineWidth (line : List Char) : Nat :=
  line.foldl (fun n c =>
    if c == '\t' then (n / 8 + 1) * 8
    else if ' ' ≤ c && c ≤ '~' then n + 1 else n) 0

def Count.ofText (text : String) : Count where
  lines := text.toList.count '\n'
  words := wordCount text.toList
  bytes := text.length
  longest := ((linesOf text).map fun l => lineWidth l.toList).foldl max 0

def Count.add (x y : Count) : Count where
  lines := x.lines + y.lines
  words := x.words + y.words
  bytes := x.bytes + y.bytes
  longest := max x.longest y.longest

/-- The numbers that are asked for. -/
def Count.shown (a : Arguments) (x : Count) : List Nat :=
  let letters := ['l', 'w', 'm', 'c', 'L'].filter a.has
  let letters := if letters.isEmpty then ['l', 'w', 'c'] else letters
  letters.map fun letter => match letter with
    | 'l' => x.lines
    | 'w' => x.words
    | 'L' => x.longest
    | _ => x.bytes

def digitCount (n : Nat) : Nat := (Nat.toDigits 10 n).length

def wc (c : Call) : Report :=
  let shape : Arguments.Shape :=
    { plain := "lwmcL"
      long := [("lines", 'l'), ("words", 'w'), ("chars", 'm'), ("bytes", 'c'),
        ("max-line-length", 'L')] }
  c.withArguments shape 1 fun a =>
    let size? := fun (path : String) =>
      if Call.isInput path then if c.seekable then some c.input.length else none
      else match c.files.entry? (decode path) with
        | some (.file number) => some (c.files.body number).bytes.size
        | some _ => none
        | none => some 0
    let sizes := a.sources.map size?
    let width :=
      if a.sources.length == 1 && (Count.shown a {}).length == 1 then 1
      else max (digitCount ((sizes.filterMap id).foldl (· + ·) 0))
        (if sizes.any Option.isNone then 7 else 1)
    let row := fun (x : Count) (name : String) =>
      " ".intercalate ((Count.shown a x).map fun n => padLeft width (numeral (n : Nat))) ++
        (if name.isEmpty then "" else " " ++ name) ++ "\n"
    let step := fun (state : Report × Count) (path : String) =>
      let (r, total) := state
      if Call.isInput path then
        let x := Count.ofText (String.ofList (c.input.toList.drop r.taken))
        ({ r.print (row x (if a.operands.isEmpty then "" else path)) with taken := c.input.length },
          total.add x)
      else match c.read path with
        | .ok text =>
          let x := Count.ofText text
          (r.print (row x path), total.add x)
        | .error e =>
          let r := r.warn c.label (path ++ ": " ++ e.text) 1
          (if e == .isDirectory then r.print (row {} path) else r, total)
    let (r, total) := a.sources.foldl step (c.quiet, {})
    if 1 < a.sources.length then r.print (row total "total") else r

/-- How `nl` numbers lines. -/
structure Numbering where
  all : Bool
  never : Bool
  width : Nat
  separator : String
  step : Int
  layout : String

/-- A number in its column. -/
def Numbering.column (x : Numbering) (n : Int) : String :=
  let text := (numeral n).toList
  let pad := x.width - text.length
  String.ofList (match x.layout with
    | "ln" => text ++ List.replicate pad ' '
    | "rz" => List.replicate pad '0' ++ text
    | _ => List.replicate pad ' ' ++ text)

/-- Numbers lines. -/
def Numbering.apply (x : Numbering) (n : Int) : List String → List String
  | [] => []
  | line :: rest =>
    if !x.never && (x.all || line != "\n") then
      (x.column n ++ x.separator ++ line) :: x.apply (n + x.step) rest
    else (String.ofList (List.replicate (x.width + x.separator.length) ' ') ++ line) :: x.apply n rest

def nl (c : Call) : Report :=
  c.withArguments { plain := "p", valued := "bhfdilnsvw" } 1 fun a =>
    let (text, r) := c.gather a.sources
    let integer := fun (letter : Char) (default : Int) =>
      ((a.value? letter).bind fun t => wholeNumber? 10 t.toList).getD default
    let x : Numbering :=
      { all := (a.value? 'b').getD "t" == "a", never := (a.value? 'b').getD "t" == "n"
        width := (integer 'w' 6).toNat, separator := (a.value? 's').getD "\t"
        step := integer 'i' 1, layout := (a.value? 'n').getD "rn" }
    let lines := (linesOf text).map (· ++ "\n")
    r.print (String.join (x.apply (integer 'v' 1) lines))

/-- Breaks a line after so many columns; with `blanks` after the last blank before them. `fuel` bounds
the number of parts. -/
def foldLine (width : Nat) (blanks : Bool) : Nat → List Char → List Char
  | 0, cs => cs
  | fuel + 1, cs =>
    if cs.length ≤ width then cs
    else
      let part := cs.take width
      let cut := if blanks then
          (part.reverse.dropWhile fun c => c != ' ' && c != '\t').length
        else width
      let cut := if cut == 0 then width else cut
      cs.take cut ++ '\n' :: foldLine width blanks fuel (cs.drop cut)

def fold (c : Call) : Report :=
  let shape : Arguments.Shape :=
    { plain := "bs", valued := "w", long := [("width", 'w'), ("spaces", 's'), ("bytes", 'b')] }
  let c := { c with arguments := modernize 'w' c.arguments }
  c.withArguments shape 1 fun a =>
    match count? ((a.value? 'w').getD "80").toList with
    | none => c.fail 1 ("invalid number of columns: '" ++ (a.value? 'w').getD "" ++ "'")
    | some 0 => c.fail 1 "invalid number of columns: '0': Numerical result out of range"
    | some width =>
      c.eachSource a.sources c.quiet fun r _ text =>
        r.print (String.join ((fullLines text).map fun line =>
          let ended := line.endsWith "\n"
          let cs := if ended then line.toList.dropLast else line.toList
          String.ofList (foldLine width (a.has 's') cs.length cs ++ if ended then ['\n'] else [])))

/-- The column that follows the next stop. -/
def nextStop (stops : List Nat) (column : Nat) : Nat :=
  match stops with
  | [] => column + 1
  | [n] => if n == 0 then column + 1 else (column / n + 1) * n
  | stops => (stops.find? (column < ·)).getD (column + 1)

/-- The stops of an option. -/
def stopsOf (a : Arguments) : List Nat :=
  match a.value? 't' with
  | some text => (text.splitOn ",").map fun t => (readNatural 10 0 t.toList).1
  | none => [8]

def expand (c : Call) : Report :=
  c.withArguments { plain := "i", valued := "t", long := [("tabs", 't'), ("initial", 'i')] } 1 fun a =>
    let stops := stopsOf a
    c.eachSource a.sources c.quiet fun r _ text =>
      let (out, _, _) := text.toList.foldl (fun (out, column, leading) ch =>
        if ch == '\t' && (leading || !a.has 'i') then
          let next := nextStop stops column
          (List.replicate (next - column) ' ' ++ out, next, leading)
        else if ch == '\n' then (ch :: out, 0, true)
        else (ch :: out, column + 1, leading && ch == ' ')) (([] : List Char), 0, true)
      r.print (String.ofList out.reverse)

def unexpand (c : Call) : Report :=
  c.withArguments { plain := "a", valued := "t", long := [("all", 'a'), ("tabs", 't')] } 1 fun a =>
    let width := (stopsOf a).headD 8
    c.eachSource a.sources c.quiet fun r _ text =>
      r.print (String.join ((fullLines text).map fun line =>
        let blank := line.toList.takeWhile fun ch => ch == ' ' || ch == '\t'
        let columns := blank.foldl (fun n ch => if ch == '\t' then nextStop [width] n else n + 1) 0
        String.ofList (List.replicate (columns / max width 1) '\t' ++
          List.replicate (columns % max width 1) ' ' ++ line.toList.drop blank.length)))

def tee (c : Call) : Report :=
  c.withArguments { plain := "aip", long := [("append", 'a')] } 1 fun a =>
    let r := (c.takeAll c.quiet).print c.input
    a.operands.foldl (fun r path =>
      match r.files.write (decode path) (toBytes c.input) (a.has 'a') with
      | .ok files => { r with files }
      | .error e => r.warn c.label (path ++ ": " ++ e.text) 1) r

end StackVM.Shell.Lines
