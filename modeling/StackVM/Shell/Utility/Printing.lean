import StackVM.Shell.Utility.Basic
import StackVM.Shell.Utility.Format

/-! # Writing texts

`echo` writes its arguments, `printf` writes them as a format says. In both, a backslash and the
characters behind it may stand for another character.
-/

namespace StackVM.Shell.Printing

/-- The character of a letter behind a backslash. -/
def escapeLetter? : Char → Option Char
  | 'a' => some '\x07'
  | 'b' => some '\x08'
  | 'e' => some '\x1b'
  | 'f' => some '\x0c'
  | 'n' => some '\n'
  | 'r' => some '\r'
  | 't' => some '\t'
  | 'v' => some '\x0b'
  | '\\' => some '\\'
  | _ => none

def isOctal (c : Char) : Bool := '0' ≤ c && c ≤ '7'

/-- The character of up to `most` octal digits at the start of a text, and what follows them. -/
def readOctal (most : Nat) (cs : List Char) : Char × List Char :=
  let digits := (cs.take most).takeWhile isOctal
  (Char.ofNat ((readNatural 8 0 digits).1 % 256), cs.drop digits.length)

/-- What stands behind a backslash, and what follows it. -/
def escape (cs : List Char) : List Char × List Char :=
  match cs with
  | [] => (['\\'], [])
  | c :: rest =>
    if isOctal c then
      let (d, rest) := readOctal 3 (c :: rest)
      ([d], rest)
    else match escapeLetter? c with
      | some d => ([d], rest)
      | none => (['\\', c], rest)

/-- A text in which escapes are resolved, and whether `\c` ended it; `fuel` bounds its length. -/
def unescape : Nat → List Char → List Char × Bool
  | 0, _ => ([], false)
  | _, [] => ([], false)
  | _ + 1, '\\' :: 'c' :: _ => ([], true)
  | fuel + 1, '\\' :: '0' :: rest =>
    let (c, rest) := readOctal 3 rest
    let (more, ended) := unescape fuel rest
    (c :: more, ended)
  | fuel + 1, '\\' :: rest =>
    let (cs, rest) := escape rest
    let (more, ended) := unescape fuel rest
    (cs ++ more, ended)
  | fuel + 1, c :: rest =>
    let (more, ended) := unescape fuel rest
    (c :: more, ended)

def resolve (text : String) : List Char × Bool := unescape (text.length + 1) text.toList

def echo (arguments : List String) : String :=
  let (newline, words) := match arguments with
    | "-n" :: rest => (false, rest)
    | rest => (true, rest)
  let (text, ended) := resolve (" ".intercalate words)
  String.ofList (if newline && !ended then text ++ ['\n'] else text)

/-- The options of the stand-alone `echo`, the last one deciding. -/
def echoOptions (newline escapes : Bool) : List String → Bool × Bool × List String
  | [] => (newline, escapes, [])
  | a :: rest =>
    match a.toList with
    | '-' :: letters =>
      if !letters.isEmpty && letters.all fun c => c == 'n' || c == 'e' || c == 'E' then
        let escapes := letters.foldl (fun e c => if c == 'n' then e else c == 'e') escapes
        echoOptions (newline && !letters.contains 'n') escapes rest
      else (newline, escapes, a :: rest)
    | _ => (newline, escapes, a :: rest)

/-- Writes its arguments; escapes have a meaning only if that is asked for. -/
def plainEcho (arguments : List String) : String :=
  let (newline, escapes, words) := echoOptions true false arguments
  let text := " ".intercalate words
  let (text, ended) := if escapes then resolve text else (text.toList, false)
  String.ofList (if newline && !ended then text ++ ['\n'] else text)

/-- The parts of a format, in which escapes are resolved; an error has the text before it. -/
def parts : Nat → List Char → List FormatPart × Option String
  | 0, _ => ([], none)
  | _, [] => ([], none)
  | fuel + 1, '%' :: '%' :: rest =>
    let (more, error) := parts fuel rest
    (.literal ['%'] :: more, error)
  | fuel + 1, '%' :: rest =>
    match readConversion rest with
    | none => ([], some "missing format character")
    | some (.conversion flags width precision letter, after) =>
      let written := '%' :: rest.take (rest.length - after.length)
      if "diouxXcsbeEfFgGaA".toList.contains letter &&
          !written.any fun c => ['h', 'l', 'j', 'z', 't', 'L', 'q'].contains c then
        let (more, error) := parts fuel after
        (.conversion flags width precision letter :: more, error)
      else ([], some (String.ofList written ++ ": invalid directive"))
    | some (part, after) =>
      let (more, error) := parts fuel after
      (part :: more, error)
  | fuel + 1, '\\' :: rest =>
    let (cs, rest) := escape rest
    let (more, error) := parts fuel rest
    (.literal cs :: more, error)
  | fuel + 1, c :: rest =>
    let (more, error) := parts fuel rest
    (.literal [c] :: more, error)

/-- A format at work: what it has written, in reverse, what is left of the arguments, and what went
wrong. -/
structure Work where
  output : List Char := []
  arguments : List String
  errors : List String := []
  status : Nat := 0
  /-- All output ends here. -/
  ended : Bool := false
  /-- An argument has been used. -/
  used : Bool := false

namespace Work

def put (w : Work) (text : List Char) : Work := { w with output := text.reverse ++ w.output }

def next (w : Work) : Option String × Work :=
  (w.arguments.head?, { w with arguments := w.arguments.tail, used := true })

def warn (w : Work) (message : String) : Work :=
  { w with errors := w.errors ++ [message], status := 1 }

/-- Notes what is wrong with a number of which only a part could be read. -/
def check (w : Work) (text : String) (readable complete : Bool) : Work :=
  if !readable then w.warn (text ++ ": expected numeric value")
  else if !complete then w.warn (text ++ ": not completely converted")
  else w

/-- The integer that the next argument denotes. -/
def integer (w : Work) : Int × Work :=
  match w.next with
  | (none, w) => (0, w)
  | (some text, w) =>
    match text.toList with
    | [] => (0, w)
    | '\'' :: c :: _ | '"' :: c :: _ => (if c.toNat < 128 then c.toNat else (c.toNat : Int) - 256, w)
    | cs =>
      match readNumber? 0 cs with
      | none => (0, w.check text false false)
      | some (n, rest) =>
        if clamp n != n then (clamp n, w.warn (text ++ ": Numerical result out of range"))
        else (n, w.check text true rest.isEmpty)

/-- The longest start of a text that is a number, with its value. -/
def readFraction (cs : List Char) : Option (Float × Nat) :=
  let sizes := (List.range (cs.length + 1)).reverse
  sizes.findSome? fun n =>
    if n == 0 then none
    else
      let part := cs.take n
      match wholeHex? part with
      | some x => some (x, n)
      | none => (Number.read? (String.ofList part)).map (·.toFloat, n)
where
  /-- The value of a hexadecimal integer. -/
  wholeHex? (part : List Char) : Option Float :=
    match part with
    | '0' :: 'x' :: d :: rest =>
      if (d :: rest).all (digitValue · < 16) then some (Number.ofNat (readNatural 16 0 (d :: rest)).1)
      else none
    | _ => none

/-- The fraction that the next argument denotes. -/
def fraction (w : Work) : Float × Work :=
  match w.next with
  | (none, w) => (0, w)
  | (some text, w) =>
    match text.toList with
    | [] => (0, w)
    | '\'' :: c :: _ | '"' :: c :: _ => (Number.ofNat c.toNat, w)
    | cs =>
      let trimmed := cs.dropWhile isSpace
      match readFraction trimmed with
      | none => (0, w.check text false false)
      | some (x, n) => (x, w.check text true (n == trimmed.length))

/-- A count, which a star takes from the arguments. -/
def count (w : Work) : Option (Option Nat) → Option Int × Work
  | none => (none, w)
  | some (some n) => (some n, w)
  | some none =>
    let (n, w) := w.integer
    (some n, w)

/-- Writes a part of a format. -/
def step (w : Work) (part : FormatPart) : Work :=
  if w.ended then w
  else match part with
    | .literal text => w.put text
    | .conversion flags width precision letter =>
      let (width, w) := w.count width
      let (precision, w) := w.count precision
      let width := width.getD 0
      let c : Conversion :=
        { flags := if width < 0 then '-' :: flags else flags
          width := width.natAbs
          precision := precision.bind fun p => if p < 0 then none else some p.toNat
          letter }
      match letter with
      | 's' =>
        let (argument, w) := w.next
        w.put (c.text (argument.getD "").toList)
      | 'b' =>
        let (argument, w) := w.next
        let (text, ended) := resolve (argument.getD "")
        { w.put (c.text text) with ended }
      | 'c' =>
        let (argument, w) := w.next
        w.put (c.pad (match (argument.getD "").toList with | d :: _ => [d] | [] => ['\x00']))
      | 'e' | 'E' | 'f' | 'F' | 'g' | 'G' | 'a' | 'A' =>
        let (x, w) := w.fraction
        w.put (c.fraction x)
      | _ =>
        let (n, w) := w.integer
        w.put (c.integer n)

/-- Writes a format, again and again while it uses arguments; `fuel` bounds how often. -/
def run (format : List FormatPart) : Nat → Work → Work
  | 0, w => w
  | fuel + 1, w =>
    let w := format.foldl step { w with used := false }
    if w.ended || w.arguments.isEmpty || !w.used then w else run format fuel w

end Work

def printf (c : Call) : Report :=
  let arguments := match c.arguments with
    | "--" :: rest => rest
    | arguments => arguments
  match arguments with
  | [] => c.fail 2 "usage: printf format [arg ...]"
  | format :: arguments =>
    let (parts, error) := parts (format.length + 1) format.toList
    let w := if error.isSome then parts.foldl Work.step { arguments }
      else Work.run parts (arguments.length + 1) { arguments }
    let messages := w.errors ++ error.toList
    let r := messages.foldl (fun r message => r.warn c.label message w.status) c.quiet
    { r.print (String.ofList w.output.reverse) with
      status := if error.isSome then 2 else w.status }

end StackVM.Shell.Printing
