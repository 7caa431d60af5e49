import StackVM.Number.Reading
import StackVM.Shell.Utility.Lines

/-! # Sorting lines

Lines are compared by keys, each of them by rules of its own; lines with equal keys are compared as a
whole.
-/

namespace StackVM.Shell.Sorting

/-- How texts are compared. -/
structure Rules where
  numeric : Bool := false
  general : Bool := false
  human : Bool := false
  month : Bool := false
  version : Bool := false
  dictionary : Bool := false
  foldCase : Bool := false
  printable : Bool := false
  reverse : Bool := false
  skipStart : Bool := false
  skipEnd : Bool := false

def Rules.add (r : Rules) (c : Char) (atEnd : Bool) : Rules :=
  match c with
  | 'n' => { r with numeric := true }
  | 'g' => { r with general := true }
  | 'h' => { r with human := true }
  | 'M' => { r with month := true }
  | 'V' => { r with version := true }
  | 'd' => { r with dictionary := true }
  | 'f' => { r with foldCase := true }
  | 'i' => { r with printable := true }
  | 'r' => { r with reverse := true }
  | 'b' => if atEnd then { r with skipEnd := true } else { r with skipStart := true }
  | _ => r

/-- Where a key starts and ends: the number of a field and that of a character in it. -/
structure Key where
  startField : Nat
  startChar : Nat
  stop : Option (Nat × Nat) := none
  rules : Rules := {}
  /-- The key has rules of its own. -/
  own : Bool := false

/-- White space between fields. -/
def isBlank (c : Char) : Bool := c == ' ' || c == '\t' || c == '\n'

/-- Skips fields; `last` says whether the separator behind the last one is skipped, too. -/
def skipFields (separator : Option Char) (last : Bool) : Nat → List Char → List Char
  | 0, cs => cs
  | n + 1, cs =>
    match separator with
    | some tab =>
      let rest := cs.dropWhile (· != tab)
      if n == 0 && !last then rest else skipFields separator last n (rest.drop 1)
    | none => skipFields separator last n ((cs.dropWhile isBlank).dropWhile fun c => !isBlank c)

/-- The part of a line that a key is about. -/
def Key.part (k : Key) (separator : Option Char) (line : List Char) : List Char :=
  let start := skipFields separator true (k.startField - 1) line
  let start := if k.rules.skipStart then start.dropWhile isBlank else start
  let start := start.drop (k.startChar - 1)
  match k.stop with
  | none => start
  | some (field, char) =>
    let rest := if char == 0 then skipFields separator false field line
      else
        let rest := skipFields separator true (field - 1) line
        let rest := if k.rules.skipEnd then rest.dropWhile isBlank else rest
        rest.drop char
    start.take (start.length - rest.length)

/-- A decimal number: its sign, its whole part and its fraction. -/
structure Decimal where
  negative : Bool
  whole : Nat
  fraction : List Char

/-- The decimal number at the start of a text. -/
def Decimal.ofText (cs : List Char) : Decimal × List Char :=
  let cs := cs.dropWhile isBlank
  let (negative, cs) := match cs with
    | '-' :: rest => (true, rest)
    | cs => (false, cs)
  let digits := cs.takeWhile Char.isDigit
  let rest := cs.drop digits.length
  let (fraction, rest) := match rest with
    | '.' :: more =>
      let fraction := more.takeWhile Char.isDigit
      (fraction, more.drop fraction.length)
    | rest => ([], rest)
  (⟨negative, (readNatural 10 0 digits).1, fraction⟩, rest)

/-- The value with so many places, as an integer. -/
def Decimal.scaled (d : Decimal) (places : Nat) : Int :=
  let digits := d.fraction.take places ++ List.replicate (places - d.fraction.length) '0'
  let n := (readNatural 10 d.whole digits).1
  if d.negative then -(n : Int) else n

def Decimal.compare (x y : Decimal) : Ordering :=
  let places := max x.fraction.length y.fraction.length
  Ord.compare (x.scaled places) (y.scaled places)

/-- The order of the unit behind a number. -/
def unitOrder : List Char → Nat
  | c :: _ =>
    match ['K', 'M', 'G', 'T', 'P', 'E', 'Z', 'Y'].idxOf? (if c == 'k' then 'K' else c) with
    | some i => i + 1
    | none => 0
  | [] => 0

/-- Compares numbers with units. -/
def compareHuman (x y : List Char) : Ordering :=
  let (a, restA) := Decimal.ofText x
  let (b, restB) := Decimal.ofText y
  let sign := fun (d : Decimal) =>
    if d.whole == 0 && d.fraction.all (· == '0') then (0 : Int) else if d.negative then -1 else 1
  let order := fun (d : Decimal) (rest : List Char) => sign d * (unitOrder rest : Int)
  (Ord.compare (sign a) (sign b)).then ((Ord.compare (order a restA) (order b restB)).then
    (a.compare b))

/-- The number of a month; zero for anything else. -/
def monthNumber (cs : List Char) : Nat :=
  let name := String.ofList (((cs.dropWhile isBlank).take 3).map Char.toUpper)
  match ["JAN", "FEB", "MAR", "APR", "MAY", "JUN", "JUL", "AUG", "SEP", "OCT", "NOV",
    "DEC"].idxOf? name with
  | some i => i + 1
  | none => 0

def compareTexts : List Char → List Char → Ordering
  | [], [] => .eq
  | [], _ :: _ => .lt
  | _ :: _, [] => .gt
  | x :: xs, y :: ys => if x < y then .lt else if y < x then .gt else compareTexts xs ys

/-- The rank of a character in a version. -/
def versionRank (c : Option Char) : Int :=
  match c with
  | none => 0
  | some '~' => -1
  | some c => if c.isDigit then 0 else if c.isAlpha then c.toNat else c.toNat + 256

/-- Compares versions: runs of digits as numbers, all else by rank. `fuel` bounds the number of
runs. -/
def compareVersions : Nat → List Char → List Char → Ordering
  | 0, _, _ => .eq
  | _, [], [] => .eq
  | fuel + 1, x, y =>
    let isOther := fun (c : Char) => !c.isDigit
    let (a, b) := (x.takeWhile isOther, y.takeWhile isOther)
    let ranks := (List.range (max a.length b.length)).foldl (fun (o : Ordering) i =>
      o.then (Ord.compare (versionRank a[i]?) (versionRank b[i]?))) .eq
    let (x, y) := (x.drop a.length, y.drop b.length)
    let (m, n) := (x.takeWhile Char.isDigit, y.takeWhile Char.isDigit)
    let numbers := Ord.compare (readNatural 10 0 m).1 (readNatural 10 0 n).1
    (ranks.then numbers).then (compareVersions fuel (x.drop m.length) (y.drop n.length))

/-- A floating-point number at the start of a text; nothing comes first, then what is no number. -/
def generalValue (cs : List Char) : Option Float :=
  let cs := cs.dropWhile isBlank
  (List.range (cs.length + 1)).reverse.findSome? fun n =>
    if n == 0 then none else (Number.read? (String.ofList (cs.take n))).map (·.toFloat)

def Rules.compare (r : Rules) (x y : List Char) : Ordering :=
  let keep := fun (cs : List Char) =>
    let cs := if r.dictionary then cs.filter fun c => isBlank c || c.isAlphanum
      else if r.printable then cs.filter fun c => ' ' ≤ c && c ≤ '~' else cs
    if r.foldCase then cs.map Char.toUpper else cs
  let order :=
    if r.numeric then (Decimal.ofText x).1.compare (Decimal.ofText y).1
    else if r.general then
      match generalValue x, generalValue y with
      | none, none => .eq
      | none, some _ => .lt
      | some _, none => .gt
      | some a, some b => if a < b then .lt else if b < a then .gt else .eq
    else if r.human then compareHuman x y
    else if r.month then Ord.compare (monthNumber x) (monthNumber y)
    else if r.version then
      (compareVersions (x.length + y.length + 1) x y).then (compareTexts x y)
    else compareTexts (keep x) (keep y)
  if r.reverse then order.swap else order

/-- A position of a key such as `2.3nr`. -/
def readPosition (cs : List Char) : Option (Nat × Option Nat × List Char) :=
  let field := cs.takeWhile Char.isDigit
  if field.isEmpty then none
  else
    let rest := cs.drop field.length
    let number := fun (cs : List Char) => (readNatural 10 0 cs).1
    match rest with
    | '.' :: more =>
      let char := more.takeWhile Char.isDigit
      if char.isEmpty then none
      else some (number field, some (number char), more.drop char.length)
    | rest => some (number field, none, rest)

/-- A key as it is written, or what is wrong with it. -/
def Key.ofText (text : String) : Except String Key := do
  let bad := fun (reason : String) => reason ++ ": invalid field specification '" ++ text ++ "'"
  let check := fun (field : Nat) (options : List Char) =>
    if field == 0 then .error (bad "field number is zero")
    else if options.all fun c => "bdfgiMhnRrV".toList.contains c then .ok ()
    else .error (bad "stray character in field spec")
  let read := fun (cs : List Char) (place : String) =>
    match readPosition cs with
    | some position => .ok position
    | none =>
      .error ("invalid number " ++ place ++ ": invalid count at start of '" ++ String.ofList cs ++ "'")
  let (startText, stopText) := match text.toList.splitOn ',' with
    | [start] => (start, none)
    | start :: rest => (start, some (rest.headD []))
    | [] => ([], none)
  let (field, char, options) ← read startText "at field start"
  check field options
  if char == some 0 then .error (bad "character offset is zero")
  let rules := options.foldl (fun (r : Rules) c => r.add c false) {}
  match stopText with
  | none => return ⟨field, char.getD 1, none, rules, !options.isEmpty⟩
  | some stopText =>
    let (stopField, stopChar, more) ← read stopText "after ','"
    check stopField more
    let rules := more.foldl (fun (r : Rules) c => r.add c true) rules
    return ⟨field, char.getD 1, some (stopField, stopChar.getD 0), rules,
      !options.isEmpty || !more.isEmpty⟩

/-- How lines are sorted. -/
structure Plan where
  keys : List Key
  separator : Option Char
  rules : Rules
  /-- Lines with equal keys stay as they are. -/
  stable : Bool

def Plan.compareKeys (p : Plan) (x y : List Char) : Ordering :=
  if p.keys.isEmpty then
    let trim := fun (cs : List Char) => if p.rules.skipStart then cs.dropWhile isBlank else cs
    p.rules.compare (trim x) (trim y)
  else p.keys.foldl (fun (o : Ordering) k => match o with
    | .eq => k.rules.compare (k.part p.separator x) (k.part p.separator y)
    | o => o) .eq

def Plan.compare (p : Plan) (x y : List Char) : Ordering :=
  match p.compareKeys x y with
  | .eq =>
    if p.stable then .eq
    else if p.rules.reverse then compareTexts y x else compareTexts x y
  | o => o

/-- The lines of sources, or why one of them cannot be read. -/
def readLines (c : Call) (ending : String) (sources : List String) :
    Except String (List (List Char)) := do
  let texts ← sources.mapM fun path =>
    match c.read path with
    | .ok text => .ok text
    | .error .isDirectory => .error ("read failed: " ++ path ++ ": Is a directory")
    | .error e => .error ("cannot read: " ++ path ++ ": " ++ e.text)
  return texts.flatMap fun text =>
    let parts := text.splitOn ending
    (if parts.getLast? == some "" then parts.dropLast else parts).map String.toList

/-- The first line that is out of order, and where it is. -/
def disorder? (plan : Plan) (unique : Bool) (lines : List (List Char)) : Option (List Char × Nat) :=
  (lines.zip (lines.drop 1)).zipIdx.findSome? fun ((x, y), i) =>
    match plan.compare x y with
    | .gt => some (y, i)
    | .eq => if unique then some (y, i) else none
    | .lt => none

/-- The keys of the options; a separator of fields has to be a single character. -/
def readKeys (a : Arguments) : Except String (List Key) :=
  match (a.value? 't').map String.toList with
  | some [] => .error "empty tab"
  | some (c :: d :: rest) =>
    if c :: d :: rest == ['\\', '0'] then (a.values 'k').mapM Key.ofText
    else .error ("multi-character tab '" ++ String.ofList (c :: d :: rest) ++ "'")
  | _ => (a.values 'k').mapM Key.ofText

def sort (c : Call) : Report :=
  let shape : Arguments.Shape :=
    { plain := "bdfgiMhnRrVcCmsuz", valued := "ktoST"
      long := [("numeric-sort", 'n'), ("reverse", 'r'), ("unique", 'u'), ("key", 'k'),
        ("field-separator", 't'), ("ignore-case", 'f'), ("output", 'o'), ("stable", 's'),
        ("check", 'c'), ("version-sort", 'V'), ("human-numeric-sort", 'h'), ("month-sort", 'M'),
        ("general-numeric-sort", 'g'), ("ignore-leading-blanks", 'b'), ("dictionary-order", 'd'),
        ("ignore-nonprinting", 'i'), ("merge", 'm'), ("zero-terminated", 'z')] }
  c.withArguments shape 2 fun a =>
    let rules := a.options.foldl (fun (r : Rules) o => r.add o.1 false) {}
    let rules := if a.has 'b' then { rules with skipEnd := true } else rules
    let separator := match (a.value? 't').map String.toList with
      | some ['\\', '0'] => some '\x00'
      | some (ch :: _) => some ch
      | _ => none
    match readKeys a with
    | .error message => c.fail 2 message
    | .ok keys =>
      let keys := keys.map fun k => if k.own then k else { k with rules }
      let plan : Plan := { keys, separator, rules, stable := a.has 's' || a.has 'u' }
      let ending := if a.has 'z' then "\x00" else "\n"
      match readLines c ending a.sources with
      | .error message => c.fail 2 message
      | .ok lines =>
        let r := if a.sources.any Call.isInput then c.takeAll c.quiet else c.quiet
        if a.has 'c' || a.has 'C' then
          match disorder? plan (a.has 'u') lines with
          | none => r
          | some (line, i) =>
            if a.has 'C' then { r with status := 1 }
            else r.warn c.label (a.sources.headD "-" ++ ":" ++ numeral (i + 2 : Nat) ++
              ": disorder: " ++ String.ofList line) 1
        else
          let sorted := lines.mergeSort fun x y => plan.compare x y != .gt
          let sorted := if a.has 'u' then
              (sorted.splitBy fun x y => plan.compareKeys x y == .eq).filterMap List.head?
            else sorted
          let output := String.join (sorted.map fun line => String.ofList line ++ ending)
          match a.value? 'o' with
          | none => r.print output
          | some path =>
            match r.files.write (decode path) (toBytes output) false with
            | .ok files => { r with files }
            | .error e => r.warn c.label ("open failed: " ++ path ++ ": " ++ e.text) 2

end StackVM.Shell.Sorting
