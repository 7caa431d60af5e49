import StackVM.Shell.Regex.Reader
import StackVM.Shell.Utility.Paths

/-! # Expressions of `expr`

The arguments are operands and operators. The levels of the operators, from the loosest on: `|`, `&`,
comparisons, sums, products, matches.
-/

namespace StackVM.Shell.Expression

inductive Fault where
  | notInteger
  | divisionByZero
  /-- The arguments end too early. -/
  | missing
  | unexpected (argument : String)
  | expected (wanted : String) (before : Bool) (argument : String)
  | badPattern (fault : Regex.RegexFault)

def Fault.text (last : String) : Fault → String
  | .notInteger => "non-integer argument"
  | .divisionByZero => "division by zero"
  | .missing => "syntax error: missing argument after '" ++ last ++ "'"
  | .unexpected ")" => "syntax error: unexpected ')'"
  | .unexpected argument => "syntax error: unexpected argument '" ++ argument ++ "'"
  | .expected wanted true argument =>
    "syntax error: expecting '" ++ wanted ++ "' instead of '" ++ argument ++ "'"
  | .expected wanted false argument =>
    "syntax error: expecting '" ++ wanted ++ "' after '" ++ argument ++ "'"
  | .badPattern fault => fault.text

/-- A value of an expression with what is left of the arguments. -/
abbrev Reading := Except Fault (String × List String)

def integer? (text : String) : Option Int :=
  match text.toList with
  | '-' :: d :: rest =>
    if (d :: rest).all Char.isDigit then some (-((readNatural 10 0 (d :: rest)).1 : Int)) else none
  | d :: rest => if (d :: rest).all Char.isDigit then some (readNatural 10 0 (d :: rest)).1 else none
  | [] => none

/-- The value counts as false. -/
def isNull (text : String) : Bool :=
  text.isEmpty || (integer? text == some 0 && text != "-")

/-- Both operands of a calculation. -/
def integers (x y : String) : Except Fault (Int × Int) :=
  match integer? x, integer? y with
  | some a, some b => .ok (a, b)
  | _, _ => .error .notInteger

def truth (b : Bool) : String := if b then "1" else "0"

def comparison (operator x y : String) : String :=
  let order := match integer? x, integer? y with
    | some a, some b => Ord.compare a b
    | _, _ => if x < y then .lt else if x == y then .eq else .gt
  truth (match operator with
    | "=" | "==" => order == .eq
    | "!=" => order != .eq
    | "<" => order == .lt
    | "<=" => order != .gt
    | ">" => order == .gt
    | _ => order != .lt)

/-- Matches the start of a text: gives the text of the first group, or the size of the match. -/
def matching (text pattern : String) : Except Fault String :=
  match Regex.ofText false pattern.toList with
  | .error fault => .error (.badPattern fault)
  | .ok (regex, groups) =>
    let cs := text.toList.toArray
    match regex.matchAt? {} cs 0 with
    | some found => .ok (if 0 < groups then String.ofList (found.group cs 1)
        else numeral found.stop)
    | none => .ok (if 0 < groups then "" else "0")

/-- The operators of a level, the loosest first. -/
def operatorsAt : Nat → List String
  | 0 => ["|"]
  | 1 => ["&"]
  | 2 => ["<", "<=", "=", "==", "!=", ">=", ">"]
  | 3 => ["+", "-"]
  | 4 => ["*", "/", "%"]
  | _ => [":"]

def apply (operator x y : String) : Except Fault String :=
  match operator with
  | "|" => .ok (if !isNull x then x else if !isNull y then y else "0")
  | "&" => .ok (if isNull x || isNull y then "0" else x)
  | "+" => do let (a, b) ← integers x y; return numeral (a + b)
  | "-" => do let (a, b) ← integers x y; return numeral (a - b)
  | "*" => do let (a, b) ← integers x y; return numeral (a * b)
  | "/" => do
    let (a, b) ← integers x y
    if b == 0 then .error .divisionByZero else return numeral (Int.tdiv a b)
  | "%" => do
    let (a, b) ← integers x y
    if b == 0 then .error .divisionByZero else return numeral (Int.tmod a b)
  | ":" => matching x y
  | operator => .ok (comparison operator x y)

def indexOf (text chars : String) : Nat :=
  match text.toList.findIdx? fun c => chars.toList.contains c with
  | some i => i + 1
  | none => 0

def substring (text start size : String) : String :=
  match integer? start, integer? size with
  | some start, some size =>
    if start < 1 || size < 1 then ""
    else String.ofList ((text.toList.drop (start.toNat - 1)).take size.toNat)
  | _, _ => ""

mutual

/-- An operand, or a word with a meaning and its operands. -/
def operand : Nat → List String → Reading
  | 0, _ => .error .missing
  | _, [] => .error .missing
  | fuel + 1, first :: rest =>
    match first, rest with
    | "(", rest => do
      let (value, rest) ← level fuel 0 rest
      match rest with
      | ")" :: rest => return (value, rest)
      | other :: _ => .error (.expected ")" true other)
      | [] => .error (.expected ")" false value)
    | ")", _ => .error (.unexpected ")")
    | "+", value :: rest => .ok (value, rest)
    | "+", [] => .error .missing
    | "length", rest => do
      let (text, rest) ← operand fuel rest
      return (numeral text.length, rest)
    | "match", rest => do
      let (text, rest) ← operand fuel rest
      let (pattern, rest) ← operand fuel rest
      return (← matching text pattern, rest)
    | "index", rest => do
      let (text, rest) ← operand fuel rest
      let (chars, rest) ← operand fuel rest
      return (numeral (indexOf text chars), rest)
    | "substr", rest => do
      let (text, rest) ← operand fuel rest
      let (start, rest) ← operand fuel rest
      let (size, rest) ← operand fuel rest
      return (substring text start size, rest)
    | first, rest => .ok (first, rest)

/-- An expression with operators of a level or tighter ones. -/
def level : Nat → Nat → List String → Reading
  | 0, _, _ => .error .missing
  | fuel + 1, n, arguments => do
    let (value, rest) ← if n < 5 then level fuel (n + 1) arguments else operand fuel arguments
    following fuel n value rest

/-- The operators of a level that follow a value. -/
def following : Nat → Nat → String → List String → Reading
  | 0, _, value, rest => .ok (value, rest)
  | fuel + 1, n, value, rest => do
    match rest with
    | operator :: more =>
      if (operatorsAt n).contains operator then
        let (other, rest) ← if n < 5 then level fuel (n + 1) more else operand fuel more
        following fuel n (← apply operator value other) rest
      else return (value, rest)
    | [] => return (value, [])

end

def evaluate (arguments : List String) : Except Fault String := do
  let (value, rest) ← level (8 * arguments.length + 16) 0 arguments
  match rest with
  | [] => return value
  | other :: _ => .error (.unexpected other)

def expr (c : Call) : Report :=
  let arguments := if c.arguments.head? == some "--" then c.arguments.drop 1 else c.arguments
  if arguments.isEmpty then c.fail 2 (Paths.withHint c "missing operand")
  else match evaluate arguments with
    | .ok value => { c.print (value ++ "\n") with status := if isNull value then 1 else 0 }
    | .error fault => c.fail 2 (fault.text (arguments.getLast?.getD ""))

end StackVM.Shell.Expression
