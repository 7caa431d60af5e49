import StackVM.Calendar
import StackVM.Shell.Utility.Format
import StackVM.Shell.Utility.Lines
import StackVM.Shell.Utility.Paths
import StackVM.Shell.Utility.Sorting

/-! # Utilities that produce numbers and facts -/

namespace StackVM.Shell.Facts

open Paths (quoted withHint)

/-- A decimal number as it is written, with the number of its places. -/
structure Written where
  /-- The value in units of the last place. -/
  units : Int
  places : Nat

/-- Reads a decimal number. -/
def Written.ofText? (text : String) : Option Written :=
  let cs := text.toList
  let (negative, body) := match cs with
    | '-' :: rest => (true, rest)
    | '+' :: rest => (false, rest)
    | cs => (false, cs)
  let whole := body.takeWhile Char.isDigit
  let (fraction, rest) := match body.drop whole.length with
    | '.' :: more => (more.takeWhile Char.isDigit, more.dropWhile Char.isDigit)
    | rest => ([], rest)
  let (exponent, rest) := match rest with
    | 'e' :: more | 'E' :: more =>
      match wholeNumber? 10 more with
      | some n => (n, [])
      | none => (0, rest)
    | rest => (0, rest)
  if (whole.isEmpty && fraction.isEmpty) || !rest.isEmpty then none
  else
    let n := (readNatural 10 0 (whole ++ fraction)).1
    let shift := exponent - (fraction.length : Int)
    let magnitude := if 0 ≤ shift then n * Nat.pow 10 shift.toNat else n
    let places := if shift < 0 then (-shift).toNat else 0
    some ⟨if negative then -(magnitude : Int) else magnitude, places⟩

/-- The value in units of a finer place. -/
def Written.scaled (w : Written) (places : Nat) : Int :=
  w.units * (Nat.pow 10 (places - w.places) : Nat)

/-- A number with so many places. -/
def decimalText (units : Int) (places : Nat) : String :=
  let digits := Nat.toDigits 10 units.natAbs
  let digits := List.replicate (places + 1 - digits.length) '0' ++ digits
  let whole := digits.take (digits.length - places)
  let fraction := digits.drop (digits.length - places)
  String.ofList ((if units < 0 then ['-'] else []) ++ whole ++
    if places == 0 then [] else '.' :: fraction)

/-- A number of the same width as others. -/
def equalWidth (width : Nat) (text : String) : String :=
  match text.toList with
  | '-' :: rest => String.ofList ('-' :: (List.replicate (width - text.length) '0' ++ rest))
  | cs => String.ofList (List.replicate (width - text.length) '0' ++ cs)

/-- The numbers of a sequence; `fuel` bounds how many there are. -/
def steps (last step : Int) : Nat → Int → List Int
  | 0, _ => []
  | fuel + 1, n =>
    if 0 < step && last < n || step < 0 && n < last || step == 0 then []
    else n :: steps last step fuel (n + step)

/-- A number in a format such as `%03g`. -/
def formatted (format : String) (units : Int) (places : Nat) : String :=
  let cs := format.toList
  let before := cs.takeWhile (· != '%')
  match readConversion (cs.drop (before.length + 1)) with
  | some (.conversion flags width precision letter, after) =>
    let value := Number.ofInt units / Number.ofNat (Nat.pow 10 places)
    let conversion : Conversion :=
      { flags, width := (width.getD none).getD 0, precision := precision.bind id, letter }
    String.ofList (before ++ conversion.fraction value ++ after)
  | _ => format

/-- An argument that starts like an option but is a number. -/
def isNumber (text : String) : Bool := (Written.ofText? text).isSome

/-- Reads the options of `seq` by hand, because numbers may be negative; `fuel` bounds their number. -/
def seqArguments : Nat → List String → Arguments → Arguments
  | 0, rest, a => { a with operands := rest }
  | _, [], a => a
  | fuel + 1, first :: rest, a =>
    if isNumber first || !first.startsWith "-" || first == "-" then { a with operands := first :: rest }
    else match first.toList, rest with
      | ['-', 'w'], rest => seqArguments fuel rest (a.add 'w' "")
      | ['-', 's'], value :: rest => seqArguments fuel rest (a.add 's' value)
      | ['-', 'f'], value :: rest => seqArguments fuel rest (a.add 'f' value)
      | '-' :: 's' :: value, rest => seqArguments fuel rest (a.add 's' (String.ofList value))
      | '-' :: 'f' :: value, rest => seqArguments fuel rest (a.add 'f' (String.ofList value))
      | ['-', '-'], rest => { a with operands := rest }
      | _, rest =>
        if first == "--equal-width" then seqArguments fuel rest (a.add 'w' "")
        else if first.startsWith "--separator=" then
          seqArguments fuel rest (a.add 's' (String.ofList (first.toList.drop 12)))
        else { a with operands := first :: rest }

def seq (c : Call) : Report :=
  let a := seqArguments (c.arguments.length + 1) c.arguments {}
  match a.operands.find? fun text => !isNumber text with
  | some text => c.fail 1 (withHint c ("invalid floating point argument: " ++ quoted text))
  | none =>
    let numbers := a.operands.filterMap Written.ofText?
    let one : Written := ⟨1, 0⟩
    match numbers with
    | [] => c.fail 1 (withHint c "missing operand")
    | [last] => write a one one last
    | [first, last] => write a first one last
    | [first, step, last] =>
      if step.units == 0 then
        c.fail 1 (withHint c ("invalid Zero increment value: " ++ quoted (a.operands.getD 1 "")))
      else write a first step last
    | _ => c.fail 1 (withHint c ("extra operand " ++ quoted (a.operands.getD 3 "")))
where
  /-- Writes the numbers. -/
  write (a : Arguments) (first step last : Written) : Report :=
    let shown := max first.places step.places
    let places := max shown last.places
    let (x, d, y) := (first.scaled places, step.scaled places, last.scaled places)
    let count := if d == 0 then 0 else ((y - x) / d + 1).toNat + 1
    let values := steps y d count x
    let unit : Int := (Nat.pow 10 (places - shown) : Nat)
    let texts := values.map fun n => match a.value? 'f' with
      | some format => formatted format n places
      | none => decimalText (Int.tdiv n unit) shown
    let width := (texts.map String.length).foldl max 0
    let texts := if a.has 'w' then texts.map (equalWidth width) else texts
    if texts.isEmpty then c.quiet
    else c.print (((a.value? 's').getD "\n").intercalate texts ++ "\n")

/-- The prime factors of a number from a divisor on; `fuel` bounds the number of steps. -/
def factorsFrom : Nat → Nat → Nat → List Nat
  | 0, n, _ => if n ≤ 1 then [] else [n]
  | fuel + 1, n, d =>
    if n ≤ 1 then []
    else if n < d * d then [n]
    else if n % d == 0 then d :: factorsFrom fuel (n / d) d
    else factorsFrom fuel n (d + 1)

def factor (c : Call) : Report :=
  let words := if c.arguments.isEmpty then
      (c.input.split isSpace).toStringList.filter (!·.isEmpty) else c.arguments
  let r := if c.arguments.isEmpty then c.takeAll c.quiet else c.quiet
  words.foldl (fun r text =>
    if text.isEmpty || !text.toList.all Char.isDigit then
      r.warn c.label (quoted text ++ " is not a valid positive integer") 1
    else
      let n := (readNatural 10 0 text.toList).1
      r.print (numeral n ++ ":" ++ String.join ((factorsFrom 10000000 n 2).map fun p =>
        " " ++ numeral (p : Nat)) ++ "\n")) r

def yes (c : Call) : Report :=
  let line := (if c.arguments.isEmpty then "y" else " ".intercalate c.arguments) ++ "\n"
  { c.print (String.join (List.replicate (262144 / line.length + 1) line)) with status := 141 }

def dayNames : List String :=
  ["Sunday", "Monday", "Tuesday", "Wednesday", "Thursday", "Friday", "Saturday"]

def monthNames : List String :=
  ["January", "February", "March", "April", "May", "June", "July", "August", "September", "October",
    "November", "December"]

/-- A number with leading zeros or blanks. -/
def twoDigits (fill : Char) (width n : Nat) : String :=
  let digits := Nat.toDigits 10 n
  String.ofList (List.replicate (width - digits.length) fill ++ digits)

/-- The first three letters. -/
def short (name : String) : String := String.ofList (name.toList.take 3)

/-- A moment as `date` writes it. -/
structure Moment where
  seconds : Int
  date : Calendar.Date
  time : Calendar.Time

/-- The number of the day in its year, from one on. -/
def Moment.dayOfYear (m : Moment) : Nat :=
  (Calendar.dayNumber m.date - Calendar.dayNumber ⟨m.date.year, 1, 1⟩ + 1).toNat

/-- The number of the day in its week, Sunday being zero. -/
def Moment.weekday (m : Moment) : Nat := ((Calendar.dayNumber m.date + 4) % 7).toNat

/-- The letters of a format that stand for others. -/
def longForm? : Char → Option String
  | 'D' => some "%m/%d/%y"
  | 'F' => some "%Y-%m-%d"
  | 'T' => some "%H:%M:%S"
  | 'R' => some "%H:%M"
  | 'r' => some "%I:%M:%S %p"
  | 'c' => some "%a %b %e %H:%M:%S %Y"
  | 'x' => some "%m/%d/%y"
  | 'X' => some "%H:%M:%S"
  | _ => none

/-- The text of a letter of a format. -/
def Moment.letter (m : Moment) (c : Char) (pad : Option Char) : String :=
  let two := fun (n : Nat) => match pad with
    | some '-' => numeral n
    | some '_' => twoDigits ' ' 2 n
    | _ => twoDigits '0' 2 n
  let hour := m.time.hour
  match c with
  | 'Y' => numeral m.date.year
  | 'C' => two (m.date.year / 100).toNat
  | 'y' => two (m.date.year % 100).toNat
  | 'm' => two m.date.month
  | 'd' => two m.date.day
  | 'e' => if pad == some '-' then numeral m.date.day else twoDigits ' ' 2 m.date.day
  | 'H' => two hour
  | 'k' => twoDigits ' ' 2 hour
  | 'I' => two ((hour + 11) % 12 + 1)
  | 'l' => twoDigits ' ' 2 ((hour + 11) % 12 + 1)
  | 'M' => two m.time.minute
  | 'S' => two m.time.second
  | 's' => numeral m.seconds
  | 'N' => "000000000"
  | 'j' => if pad == some '-' then numeral m.dayOfYear else twoDigits '0' 3 m.dayOfYear
  | 'p' => if hour < 12 then "AM" else "PM"
  | 'P' => if hour < 12 then "am" else "pm"
  | 'a' => short (dayNames.getD m.weekday "")
  | 'A' => dayNames.getD m.weekday ""
  | 'b' | 'h' => short (monthNames.getD (m.date.month - 1) "")
  | 'B' => monthNames.getD (m.date.month - 1) ""
  | 'u' => numeral (if m.weekday == 0 then 7 else m.weekday : Nat)
  | 'w' => numeral m.weekday
  | 'U' => two ((m.dayOfYear + 6 - m.weekday) / 7)
  | 'W' => two ((m.dayOfYear + 6 - (m.weekday + 6) % 7) / 7)
  | 'q' => numeral ((m.date.month - 1) / 3 + 1 : Nat)
  | 'Z' => "UTC"
  | 'z' => "+0000"
  | 'n' => "\n"
  | 't' => "\t"
  | '%' => "%"
  | c => String.ofList ['%', c]

/-- A moment in a format; `fuel` bounds its length. -/
def Moment.text (m : Moment) : Nat → List Char → String
  | 0, _ => ""
  | _, [] => ""
  | fuel + 1, '%' :: c :: rest =>
    match longForm? c with
    | some long => m.text fuel (long.toList ++ rest)
    | none =>
      match c, rest with
      | '-', d :: rest => m.letter d (some '-') ++ m.text fuel rest
      | '_', d :: rest => m.letter d (some '_') ++ m.text fuel rest
      | '0', d :: rest => m.letter d (some '0') ++ m.text fuel rest
      | c, rest => m.letter c none ++ m.text fuel rest
  | fuel + 1, c :: rest => String.ofList [c] ++ m.text fuel rest

/-- The moment that a text denotes: a number of seconds behind an at sign, or a date and a time. -/
def seconds? (text : String) : Option Int :=
  match text.toList with
  | '@' :: rest => wholeNumber? 10 rest
  | cs =>
    let parts := (cs.splitBy fun a b => a.isDigit == b.isDigit).filterMap fun part =>
      if (part.headD ' ').isDigit then some (readNatural 10 0 part).1 else none
    match parts with
    | year :: month :: day :: rest =>
      let time : Calendar.Time := ⟨rest.getD 0 0, rest.getD 1 0, rest.getD 2 0⟩
      Calendar.epoch? ⟨year, month, day⟩ time
    | _ => none

def date (c : Call) : Report :=
  let shape : Arguments.Shape :=
    { plain := "uRI", valued := "dsfr"
      long := [("date", 'd'), ("utc", 'u'), ("universal", 'u'), ("reference", 'r')] }
  c.withArguments shape 1 fun a =>
    let format := (a.operands.find? (·.startsWith "+")).map fun f => f.toList.drop 1
    let seconds := match a.value? 'd' with
      | some text => seconds? text
      | none => some c.files.time
    match seconds with
    | none => c.fail 1 ("invalid date " ++ quoted ((a.value? 'd').getD ""))
    | some seconds =>
      match Calendar.moment? seconds with
      | none => c.fail 1 ("time " ++ quoted (numeral seconds) ++ " is out of range")
      | some (date, time) =>
        let m : Moment := ⟨seconds, date, time⟩
        let format := if a.has 'I' then "%Y-%m-%d".toList
          else format.getD "%a %b %e %H:%M:%S %Z %Y".toList
        c.print (m.text (4 * format.length + 100) format ++ "\n")

def printenv (c : Call) : Report :=
  c.withArguments { plain := "0", strict := true } 2 fun a =>
    let ending := if a.has '0' then "\x00" else "\n"
    if a.operands.isEmpty then
      c.print (String.join (c.environment.map fun (name, value) => name ++ "=" ++ value ++ ending))
    else a.operands.foldl (fun r name =>
      match c.environment.get? name with
      | some value => r.print (value ++ ending)
      | none => { r with status := 1 }) c.quiet

def uname (c : Call) : Report :=
  c.withArguments { plain := "asnrvmpio" } 1 fun a =>
    let facts := [('s', "Linux"), ('n', "localhost"), ('r', "6.1.0"), ('v', "#1 SMP"), ('m', "x86_64"),
      ('o', "GNU/Linux")]
    let shown := if a.options.isEmpty then ['s']
      else if a.has 'a' then ['s', 'n', 'r', 'v', 'm', 'o']
      else a.options.map fun o => if o.1 == 'p' || o.1 == 'i' then 'm' else o.1
    c.print (" ".intercalate (facts.filterMap fun (letter, text) =>
      if shown.contains letter then some text else none) ++ "\n")

def id (c : Call) : Report :=
  c.withArguments { plain := "ugGnr" } 1 fun a =>
    if a.has 'u' || a.has 'g' || a.has 'G' then c.print (if a.has 'n' then "root\n" else "0\n")
    else c.print "uid=0(root) gid=0(root) groups=0(root)\n"

/-- Writes a fixed line. -/
def line (text : String) (c : Call) : Report := c.print (text ++ "\n")

def succeed (c : Call) : Report := c.quiet

/-- Fails without a word. -/
def failSilently (c : Call) : Report := { c.quiet with status := 1 }

/-- The time that an argument of `sleep` denotes is a number with a unit. -/
def isDuration (text : String) : Bool :=
  let cs := text.toList
  let body := match cs.getLast? with
    | some unit => if ['s', 'm', 'h', 'd'].contains unit then cs.dropLast else cs
    | none => cs
  isNumber (String.ofList body) || ["inf", "infinity"].contains text

/-- Waits, which takes no time here. -/
def sleep (c : Call) : Report :=
  if c.arguments.isEmpty then c.fail 1 (withHint c "missing operand")
  else match c.arguments.find? fun text => !isDuration text with
    | some text => c.fail 1 (withHint c ("invalid time interval " ++ quoted text))
    | none => c.quiet

end StackVM.Shell.Facts
