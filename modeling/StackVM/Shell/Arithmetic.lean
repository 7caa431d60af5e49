import StackVM.Record
import StackVM.Shell.Numeral
import StackVM.Shell.Script

/-! # Arithmetic

Expressions over integers of 64 bits with the operators, the levels and the assignments of C. What
is not needed for the value, such as the right side of `0 && …`, is read and has no effect.
-/

namespace StackVM.Shell

/-- What is wrong with an expression. -/
inductive ArithmeticError where
  | expectingPrimary
  | expectingEnd
  | expectingColon
  | expectingParenthesis
  | divisionByZero
  | illegalNumber (text : String)
deriving DecidableEq, Repr

def ArithmeticError.text (expression : String) : ArithmeticError → String
  | .expectingPrimary => "arithmetic expression: expecting primary: \"" ++ expression ++ "\""
  | .expectingEnd => "arithmetic expression: expecting EOF: \"" ++ expression ++ "\""
  | .expectingColon => "arithmetic expression: expecting ':': \"" ++ expression ++ "\""
  | .expectingParenthesis => "arithmetic expression: expecting ')': \"" ++ expression ++ "\""
  | .divisionByZero => "arithmetic expression: division by zero: \"" ++ expression ++ "\""
  | .illegalNumber text => "Illegal number: " ++ text

namespace Arithmetic

inductive Token where
  | number (n : Int)
  | name (text : List Char)
  | operator (text : String)
  /-- A character with no meaning. -/
  | stray
deriving DecidableEq, Repr

/-- The operators, the longer ones first. -/
def operators : List String :=
  ["<<=", ">>=", "<<", ">>", "<=", ">=", "==", "!=", "&&", "||", "*=", "/=", "%=", "+=", "-=", "&=",
    "^=", "|=", "+", "-", "*", "/", "%", "<", ">", "=", "!", "~", "&", "^", "|", "?", ":", "(", ")"]

/-- The tokens of an expression; `fuel` bounds their number. -/
def tokens : Nat → List Char → List Token
  | 0, _ => []
  | _, [] => []
  | fuel + 1, c :: rest =>
    if isSpace c then tokens fuel rest
    else if c.isDigit then
      match readNumber? 0 (c :: rest) with
      | some (n, rest) => .number (clamp n) :: tokens fuel rest
      | none => [.stray]
    else if isNameCharacter c then
      .name ((c :: rest).takeWhile isNameCharacter) ::
        tokens fuel ((c :: rest).dropWhile isNameCharacter)
    else match operators.find? fun o => o.toList.isPrefixOf (c :: rest) with
      | some o => .operator o :: tokens fuel ((c :: rest).drop o.length)
      | none => [.stray]

/-- How tightly a binary operator binds; the tightest has the greatest level. -/
def level? : String → Option Nat
  | "*" | "/" | "%" => some 10
  | "+" | "-" => some 9
  | "<<" | ">>" => some 8
  | "<" | "<=" | ">" | ">=" => some 7
  | "==" | "!=" => some 6
  | "&" => some 5
  | "^" => some 4
  | "|" => some 3
  | "&&" => some 2
  | "||" => some 1
  | _ => none

/-- A truth value as a number. -/
def ofBool (b : Bool) : Int := if b then 1 else 0

def bits (n : Int) : Nat := (n % 0x10000000000000000).toNat

def apply (operator : String) (a b : Int) : Except ArithmeticError Int :=
  match operator with
  | "*" => .ok (wrap (a * b))
  | "/" => if b == 0 then .error .divisionByZero else .ok (wrap (a.tdiv b))
  | "%" => if b == 0 then .error .divisionByZero else .ok (a.tmod b)
  | "+" => .ok (wrap (a + b))
  | "-" => .ok (wrap (a - b))
  | "<<" => .ok (wrap (bits a <<< (bits b % 64) : Nat))
  | ">>" => .ok (a.shiftRight (bits b % 64))
  | "<" => .ok (ofBool (a < b))
  | "<=" => .ok (ofBool (a ≤ b))
  | ">" => .ok (ofBool (b < a))
  | ">=" => .ok (ofBool (b ≤ a))
  | "==" => .ok (ofBool (a == b))
  | "!=" => .ok (ofBool (a != b))
  | "&" => .ok (wrap (bits a &&& bits b : Nat))
  | "^" => .ok (wrap (bits a ^^^ bits b : Nat))
  | "|" => .ok (wrap (bits a ||| bits b : Nat))
  | "&&" => .ok (ofBool (a != 0 && b != 0))
  | "||" => .ok (ofBool (a != 0 || b != 0))
  | _ => .error .expectingEnd

/-- What is left of an expression and what has been assigned. -/
structure State where
  rest : List Token
  assigned : Record Int := []

/-- Evaluates a part of an expression. -/
abbrev Evaluation := StateT State (Except ArithmeticError)

def value (lookup : String → String) (name : List Char) : Evaluation Int := do
  let name := String.ofList name
  match (← get).assigned.get? name with
  | some n => return n
  | none =>
    let text := lookup name
    if text.toList.all isSpace then return 0
    else match wholeNumber? 0 text.toList with
      | some n => return n
      | none => throw (.illegalNumber text)

def next : Evaluation (Option Token) := do return (← get).rest.head?

/-- Moves on by one token. -/
def skip : Evaluation Unit := modify fun s => { s with rest := s.rest.tail }

/-- The operator of an assignment without its equals sign. -/
def assignment? : Token → Option String
  | .operator "=" => some ""
  | .operator o =>
    if ["*=", "/=", "%=", "+=", "-=", "<<=", ">>=", "&=", "^=", "|="].contains o then
      some (String.ofList o.toList.dropLast)
    else none
  | _ => none

mutual

/-- An assignment or a conditional; it has effects only if it is `live`. -/
def expression (lookup : String → String) : Nat → Bool → Evaluation Int
  | 0, _ => throw .expectingPrimary
  | fuel + 1, live => do
    match (← get).rest with
    | .name name :: o :: _ =>
      match assignment? o with
      | some operator =>
        skip
        skip
        let right ← expression lookup fuel live
        if !live then return right
        else
          let n ← if operator.isEmpty then pure right
            else do apply operator (← value lookup name) right
          modify fun s => { s with assigned := s.assigned.insert (String.ofList name) n }
          return n
      | none => conditional lookup fuel live
    | _ => conditional lookup fuel live

def conditional (lookup : String → String) : Nat → Bool → Evaluation Int
  | 0, _ => throw .expectingPrimary
  | fuel + 1, live => do
    let test ← binary lookup fuel live 1
    if (← next) = some (.operator "?") then
      skip
      let yes ← expression lookup fuel (live && test != 0)
      if (← next) ≠ some (.operator ":") then throw .expectingColon
      else
        skip
        let no ← conditional lookup fuel (live && test == 0)
        return if test != 0 then yes else no
    else return test

/-- Operators of a level and above. -/
def binary (lookup : String → String) : Nat → Bool → Nat → Evaluation Int
  | 0, _, _ => throw .expectingPrimary
  | fuel + 1, live, level => do
    let left ← unary lookup fuel live
    continued lookup fuel live level left

/-- Goes on behind a left operand. -/
def continued (lookup : String → String) : Nat → Bool → Nat → Int → Evaluation Int
  | 0, _, _, _ => throw .expectingPrimary
  | fuel + 1, live, level, left => do
    match ← next with
    | some (.operator o) =>
      match level? o with
      | some l =>
        if l < level then return left
        else
          skip
          let needed := (o != "&&" || left != 0) && (o != "||" || left == 0)
          let right ← binary lookup fuel (live && needed) (l + 1)
          let value ← if live && needed then apply o left right
            else pure (ofBool (o == "||" && left != 0))
          continued lookup fuel live level value
      | none => return left
    | _ => return left

/-- A sign, a negation or a primary. -/
def unary (lookup : String → String) : Nat → Bool → Evaluation Int
  | 0, _ => throw .expectingPrimary
  | fuel + 1, live => do
    match ← next with
    | some (.number n) => do skip; return n
    | some (.name name) => do skip; if live then value lookup name else return 0
    | some (.operator "+") => do skip; unary lookup fuel live
    | some (.operator "-") => do skip; return wrap (-(← unary lookup fuel live))
    | some (.operator "~") => do skip; return -(← unary lookup fuel live) - 1
    | some (.operator "!") => do skip; return ofBool ((← unary lookup fuel live) == 0)
    | some (.operator "(") =>
      skip
      let n ← expression lookup fuel live
      if (← next) ≠ some (.operator ")") then throw .expectingParenthesis
      else
        skip
        return n
    | _ => throw .expectingPrimary

end

def evaluate (lookup : String → String) (text : List Char) :
    Except ArithmeticError (Int × Record Int) := do
  let tokens := tokens (text.length + 1) text
  let (n, s) ← (expression lookup (8 * tokens.length + 16) true).run { rest := tokens }
  if s.rest.isEmpty then return (n, s.assigned) else throw .expectingEnd

end Arithmetic

end StackVM.Shell
