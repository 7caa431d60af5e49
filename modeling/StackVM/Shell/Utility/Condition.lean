import StackVM.Shell.Utility.Basic

/-! # Conditions

A condition is read by the number of its arguments where that decides, and otherwise by the levels
of its operators: `!` before `-a`, `-a` before `-o`.
-/

namespace StackVM.Shell.Condition

/-- The value of a condition, or what is wrong with it. -/
abbrev Verdict := Except String Bool

/-- What conditions are about. -/
structure Setting where
  files : Files
  /-- The streams that are connected to a terminal; there are none. -/
  terminals : List Nat := []

def unaryOperators : List String :=
  ["-n", "-z", "-e", "-f", "-d", "-s", "-r", "-w", "-x", "-L", "-h", "-p", "-S", "-b", "-c", "-u",
    "-g", "-k", "-t", "-O", "-G"]

def binaryOperators : List String :=
  ["=", "!=", "<", ">", "-eq", "-ne", "-lt", "-le", "-gt", "-ge", "-nt", "-ot", "-ef"]

def number (text : String) : Except String Int :=
  match wholeNumber? 10 text.toList with
  | some n => .ok n
  | none => .error ("Illegal number: " ++ text)

/-- The time at which a file was changed. -/
def time? (t : Setting) (path : String) : Option Int :=
  match t.files.entry? (decode path) with
  | some (.file number) => some (t.files.body number).time
  | some _ => some 0
  | none => none

def size (fs : Files) : Entry → Nat
  | .file number => (fs.body number).bytes.size
  | .directory _ _ => 4096
  | _ => 0

def unary (t : Setting) (operator argument : String) : Verdict :=
  let entry := t.files.entry? (decode argument)
  match operator with
  | "-n" => .ok (!argument.isEmpty)
  | "-z" => .ok argument.isEmpty
  | "-e" | "-r" | "-w" | "-O" | "-G" => .ok entry.isSome
  | "-f" => .ok (entry.any fun e => match e with | .file _ => true | _ => false)
  | "-d" => .ok (entry.any Entry.isDirectory)
  | "-s" => .ok (entry.any fun e => 0 < size t.files e)
  | "-x" => .ok (entry.any fun e =>
      let mode := t.files.mode e
      e.isDirectory || mode.testBit 0 || mode.testBit 3 || mode.testBit 6)
  | "-L" | "-h" =>
    .ok ((t.files.entryOrLink? (decode argument)).any fun e => match e with | .link _ => true | _ => false)
  | "-p" => .ok (entry.any fun e => match e with | .pipe _ => true | _ => false)
  | "-c" => .ok (entry.any fun e => match e with | .device _ => true | _ => false)
  | "-u" => .ok (entry.any fun e => (t.files.mode e).testBit 11)
  | "-g" => .ok (entry.any fun e => (t.files.mode e).testBit 10)
  | "-k" => .ok (entry.any fun e => (t.files.mode e).testBit 9)
  | "-t" => do return t.terminals.contains (← number argument).toNat
  | _ => .ok false

def same (t : Setting) (a b : String) : Bool :=
  match t.files.locate (decode a), t.files.locate (decode b) with
  | .ok x, .ok y => x.entry.isSome && (x.place == y.place || Files.sameFile x.entry y.entry)
  | _, _ => false

def binary (t : Setting) (a operator b : String) : Verdict :=
  match operator with
  | "=" => .ok (a == b)
  | "!=" => .ok (a != b)
  | "<" => .ok (a < b)
  | ">" => .ok (b < a)
  | "-eq" => do return (← number a) == (← number b)
  | "-ne" => do return (← number a) != (← number b)
  | "-lt" => do return (← number a) < (← number b)
  | "-le" => do return (← number a) ≤ (← number b)
  | "-gt" => do return (← number b) < (← number a)
  | "-ge" => do return (← number b) ≤ (← number a)
  | "-nt" =>
    match time? t a, time? t b with
    | some x, some y => .ok (y < x)
    | _, _ => .ok false
  | "-ot" =>
    match time? t a, time? t b with
    | some x, some y => .ok (x < y)
    | _, _ => .ok false
  | "-ef" => .ok (same t a b)
  | operator => .error (operator ++ ": unexpected operator")

/-- What an argument is, given those behind it. -/
inductive Role where
  | finish
  | operand
  | unary
  | negation
  | opening
  | conjunction
  | disjunction
  | other
deriving DecidableEq

/-- The role of the first argument. An operator with one argument is an operand if it stands alone or
before an operator with two arguments. -/
def roleOf : List String → Role
  | [] => .finish
  | word :: rest =>
    if unaryOperators.contains word then
      match rest with
      | [] => .operand
      | [_] => .unary
      | next :: _ => if binaryOperators.contains next then .operand else .unary
    else match word with
      | "!" => .negation
      | "(" => if rest.isEmpty then .operand else .opening
      | "-a" => .conjunction
      | "-o" => .disjunction
      | _ => .other

/-- The value of a part of a condition, and the arguments from its last one on. -/
abbrev Part := Except String (Bool × List String)

mutual

def disjunction (t : Setting) : Nat → Role → List String → Part
  | 0, _, _ => .error "argument expected"
  | fuel + 1, role, arguments => do
    let (a, last) ← conjunction t fuel role arguments
    if roleOf (last.drop 1) = .disjunction then
      let rest := last.drop 2
      let (b, last) ← disjunction t fuel (roleOf rest) rest
      return (a || b, last)
    else return (a, last)

/-- Conditions that have to hold together. -/
def conjunction (t : Setting) : Nat → Role → List String → Part
  | 0, _, _ => .error "argument expected"
  | fuel + 1, role, arguments => do
    let (a, last) ← negation t fuel role arguments
    if roleOf (last.drop 1) = .conjunction then
      let rest := last.drop 2
      let (b, last) ← conjunction t fuel (roleOf rest) rest
      return (a && b, last)
    else return (a, last)

/-- A condition or its opposite. -/
def negation (t : Setting) : Nat → Role → List String → Part
  | 0, _, _ => .error "argument expected"
  | fuel + 1, role, arguments => do
    if role = .negation then
      let rest := arguments.drop 1
      if rest.isEmpty then return (true, arguments)
      else
        let (a, last) ← negation t fuel (roleOf rest) rest
        return (!a, last)
    else primary t fuel role arguments

/-- A single condition. Where one is missing, it does not hold. -/
def primary (t : Setting) : Nat → Role → List String → Part
  | 0, _, _ => .error "argument expected"
  | fuel + 1, role, arguments => do
    match role, arguments with
    | _, [] => return (false, [])
    | .opening, _ :: rest =>
      if rest.head? == some ")" then return (false, rest)
      else
        let (a, last) ← disjunction t fuel (roleOf rest) rest
        if (last.drop 1).head? == some ")" then return (a, last.drop 1)
        else .error "closing paren expected"
    | .unary, operator :: rest =>
      match rest with
      | argument :: _ => return (← unary t operator argument, rest)
      | [] => .error (operator ++ ": argument expected")
    | _, a :: rest =>
      match rest with
      | operator :: more =>
        if binaryOperators.contains operator then
          match more with
          | b :: _ => return (← binary t a operator b, more)
          | [] => .error (operator ++ ": argument expected")
        else return (!a.isEmpty, arguments)
      | [] => return (!a.isEmpty, arguments)

end

/-- The value of a condition that is read from left to right. -/
def general (t : Setting) (role : Role) (arguments : List String) : Verdict := do
  let (value, last) ← disjunction t (4 * arguments.length + 8) role arguments
  match last with
  | word :: _ :: _ => .error (word ++ ": unexpected operator")
  | _ => return value

/-- The value of a condition. With three arguments an operator in the middle decides; before three or
four arguments an exclamation mark belongs to all that follows, and parentheses around them are
dropped. -/
def evaluate (t : Setting) : List String → Verdict
  | [] => .ok false
  | [a, b, c] =>
    if binaryOperators.contains b then general t .operand [a, b, c]
    else if a == "(" && c == ")" then general t (roleOf [b]) [b]
    else if a == "!" then do return !(← general t (roleOf [b, c]) [b, c])
    else general t (roleOf [a, b, c]) [a, b, c]
  | [a, b, c, d] =>
    if a == "(" && d == ")" then general t (roleOf [b, c]) [b, c]
    else if a == "!" then do return !(← evaluate t [b, c, d])
    else general t (roleOf [a, b, c, d]) [a, b, c, d]
  | arguments => general t (roleOf arguments) arguments

/-- Checks a condition; behind the name `[` it has to end with a closing bracket. -/
def test (c : Call) : Report :=
  let run := fun (arguments : List String) =>
    match evaluate { files := c.files } arguments with
    | .ok true => c.quiet
    | .ok false => { c.quiet with status := 1 }
    | .error message => c.fail 2 message
  if c.name == "[" then
    if c.arguments.getLast? == some "]" then run c.arguments.dropLast
    else c.fail 2 "missing ]"
  else run c.arguments

end StackVM.Shell.Condition
