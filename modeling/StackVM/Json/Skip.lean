import StackVM.Json.Lexer

/-! # Skipping a value

A member that nobody asks for is passed over without building it. Only its outline is checked: the
nesting has no limit, numbers have no range and the halves of a surrogate pair need not match.
-/

namespace StackVM.Json

/-- Skips the rest of a string after its opening quote. -/
def skipString : List Char → Except Failure (List Char)
  | [] => .error (.here .endInString [])
  | '"' :: rest => .ok rest
  | ['\\'] => .error (.here .endInString [])
  | '\\' :: 'u' :: a :: b :: c :: d :: rest =>
    match hexValue? a b c d with
    | none => .error (badHex (a :: b :: c :: d :: rest))
    | some _ => skipString rest
  | '\\' :: 'u' :: rest => .error (badHex rest)
  | '\\' :: c :: rest =>
    if (escaped? c).isSome then skipString rest else .error (.next .invalidEscape (c :: rest))
  | c :: rest =>
    if c.toNat < 0x20 then .error (.here .controlCharacter (c :: rest)) else skipString rest

/-- Skips the exponent of a number after its mark. -/
def skipExponent (cs : List Char) : Except Failure (List Char) :=
  let digits := match cs with
    | '-' :: rest => rest
    | '+' :: rest => rest
    | rest => rest
  match digits with
  | c :: rest =>
    if c.isDigit then .ok (rest.dropWhile Char.isDigit)
    else .error (.next .invalidNumber (c :: rest))
  | [] => .error (.here .invalidNumber [])

/-- Skips the fraction and exponent of a number. -/
def skipFraction : List Char → Except Failure (List Char)
  | '.' :: rest =>
    match rest with
    | c :: _ =>
      if c.isDigit then
        match rest.dropWhile Char.isDigit with
        | 'e' :: rest => skipExponent rest
        | 'E' :: rest => skipExponent rest
        | rest => .ok rest
      else .error (.next .invalidNumber rest)
    | [] => .error (.here .invalidNumber [])
  | 'e' :: rest => skipExponent rest
  | 'E' :: rest => skipExponent rest
  | rest => .ok rest

/-- Skips a number after its sign. -/
def skipNumber : List Char → Except Failure (List Char)
  | [] => .error (.here .invalidNumber [])
  | '0' :: rest =>
    match rest with
    | c :: _ => if c.isDigit then .error (.next .invalidNumber rest) else skipFraction rest
    | [] => .ok []
  | c :: rest =>
    if c.isDigit then skipFraction (rest.dropWhile Char.isDigit)
    else .error (.next .invalidNumber (c :: rest))

/-- A bracket that is open. -/
inductive Bracket where
  | list
  | object
deriving DecidableEq, Repr

/-- Skips a scalar or opens a bracket. -/
def skipStart (cs : List Char) : Except Failure (Option Bracket × List Char) :=
  match skipBlanks cs with
  | [] => .error (.here .endInValue [])
  | 'n' :: rest => (scanWord "ull".toList rest).map (none, ·)
  | 't' :: rest => (scanWord "rue".toList rest).map (none, ·)
  | 'f' :: rest => (scanWord "alse".toList rest).map (none, ·)
  | '-' :: rest => (skipNumber rest).map (none, ·)
  | '"' :: rest => (skipString rest).map (none, ·)
  | '[' :: rest => .ok (some .list, rest)
  | '\x7b' :: rest => .ok (some .object, rest)
  | c :: rest =>
    if c.isDigit then (skipNumber (c :: rest)).map (none, ·)
    else .error (.next .expectedValue (c :: rest))

/-- Closes brackets until a comma or an item stands next. An empty stack of open brackets means
that the value has ended. -/
def skipClosing (comma : Bool) :
    List Bracket → List Char → Except Failure (List Bracket × List Char)
  | [], cs => .ok ([], cs)
  | bracket :: outer, cs =>
    match bracket, skipBlanks cs with
    | .list, [] => .error (.here .endInList [])
    | .object, [] => .error (.here .endInObject [])
    | .list, ']' :: rest => skipClosing true outer rest
    | .object, '\x7d' :: rest => skipClosing true outer rest
    | _, c :: rest =>
      if comma then
        if c == ',' then .ok (bracket :: outer, rest)
        else .error (.next
          (if bracket == .list then .expectedCommaOrBracket else .expectedCommaOrBrace) (c :: rest))
      else .ok (bracket :: outer, c :: rest)

/-- Skips a key and its colon. -/
def skipKey (cs : List Char) : Except Failure (List Char) :=
  match skipBlanks cs with
  | [] => .error (.here .endInObject [])
  | '"' :: rest => do
    let rest ← skipString rest
    match skipBlanks rest with
    | [] => .error (.here .endInObject [])
    | ':' :: rest => .ok rest
    | other => .error (.next .expectedColon other)
  | other => .error (.next .keyMustBeString other)

/-- Skips values until no bracket is open. -/
def skipOpen : Nat → List Bracket → List Char → Except Failure (List Char)
  | 0, _, cs => .error (.here .endInValue cs)
  | fuel + 1, stack, cs => do
    let (opened, rest) ← skipStart cs
    let (stack, rest) ← match opened with
      | some bracket => skipClosing false (bracket :: stack) rest
      | none => skipClosing true stack rest
    match stack with
    | [] => return rest
    | .list :: _ => skipOpen fuel stack rest
    | .object :: _ =>
      let rest ← skipKey rest
      skipOpen fuel stack rest

def skipValue (cs : List Char) : Except Failure (List Char) := skipOpen (cs.length + 1) [] cs

end StackVM.Json
