import StackVM.Shell.Numeral
import StackVM.Shell.Regex.Basic

/-! # Reading regular expressions

In a basic expression parentheses, braces, plus, question mark and bar have a meaning behind a
backslash, in an extended one without it. An asterisk where nothing can be repeated stands for
itself, as do anchors that are not at an edge of a basic expression.
-/

namespace StackVM.Shell.Regex

inductive RegexFault where
  | openBracket
  | openParenthesis
  | closingParenthesis
  | openBrace
  | badBrace
  | badRange
  | badClass
  | badReference
  | nothingToRepeat
  | trailingBackslash
deriving DecidableEq, Repr

def RegexFault.text : RegexFault → String
  | .openBracket => "Unmatched [, [^, [:, [., or [="
  | .openParenthesis => "Unmatched ( or \\("
  | .closingParenthesis => "Unmatched ) or \\)"
  | .openBrace => "Unmatched \\\x7b"
  | .badBrace => "Invalid content of \\\x7b\\\x7d"
  | .badRange => "Invalid range end"
  | .badClass => "Invalid character class name"
  | .badReference => "Invalid back reference"
  | .nothingToRepeat => "Invalid preceding regular expression"
  | .trailingBackslash => "Trailing backslash"

def classNames : List String :=
  ["alpha", "digit", "alnum", "upper", "lower", "space", "blank", "punct", "print", "graph", "cntrl",
    "xdigit"]

/-- A character of a set: plain, or between `[.` and `.]`. -/
def setMember : List Char → Option (Char × List Char)
  | '[' :: '.' :: c :: '.' :: ']' :: rest => some (c, rest)
  | c :: rest => some (c, rest)
  | [] => none

/-- The range that a character starts, given what follows it. -/
def memberRange (c : Char) : List Char → Except RegexFault ((Char × Char) × List Char)
  | '-' :: ']' :: rest => .ok ((c, c), '-' :: ']' :: rest)
  | '-' :: rest =>
    match setMember rest with
    | some (d, rest) => if d < c then .error .badRange else .ok ((c, d), rest)
    | none => .error .openBracket
  | rest => .ok ((c, c), rest)

/-- A class behind its bracket and its colon. -/
def className? (cs : List Char) : Option (String × List Char) :=
  let name := cs.takeWhile fun c => c != ':' && c != ']'
  match cs.drop name.length with
  | ':' :: ']' :: rest => some (String.ofList name, rest)
  | _ => none

/-- The next member of a set and what follows it. -/
def readMember (cs : List Char) (set : CharSet) : Except RegexFault (CharSet × List Char) := do
  let range := fun (c : Char) (rest : List Char) => do
    let (range, rest) ← memberRange c rest
    return ({ set with ranges := set.ranges ++ [range] }, rest)
  match cs with
  | '[' :: ':' :: rest =>
    match className? rest with
    | some (name, rest) =>
      if classNames.contains name then
        return ({ set with classes := set.classes ++ [name] }, rest)
      else .error .badClass
    | none => range '[' (':' :: rest)
  | '[' :: '=' :: c :: '=' :: ']' :: rest =>
    return ({ set with ranges := set.ranges ++ [(c, c)] }, rest)
  | cs =>
    match setMember cs with
    | some (c, rest) => range c rest
    | none => .error .openBracket

/-- The members of a set and what follows its closing bracket; a bracket that comes first stands for
itself. `fuel` bounds the number of members. -/
def readSet (first : Bool) : Nat → List Char → CharSet → Except RegexFault (CharSet × List Char)
  | 0, _, _ => .error .openBracket
  | fuel + 1, cs, set => do
    if !first && cs.head? == some ']' then return (set, cs.drop 1)
    else
      let (set, rest) ← readMember cs set
      readSet false fuel rest set

/-- A set behind its opening bracket. -/
def readBracket (cs : List Char) : Except RegexFault (CharSet × List Char) :=
  match cs with
  | '^' :: rest => do
    let (set, rest) ← readSet true (rest.length + 1) rest ⟨[], [], true⟩
    return (set, rest)
  | cs => readSet true (cs.length + 1) cs ⟨[], [], false⟩

/-- The numbers of a repetition behind its opening brace. -/
def readBounds (extended : Bool) (cs : List Char) :
    Except RegexFault ((Nat × Option Nat) × List Char) :=
  let low := cs.takeWhile Char.isDigit
  let rest := cs.drop low.length
  let number := fun (digits : List Char) => (readNatural 10 0 digits).1
  let close := fun (bounds : Nat × Option Nat) (rest : List Char) =>
    match extended, rest with
    | true, '\x7d' :: rest | false, '\\' :: '\x7d' :: rest =>
      if bounds.2.any (· < bounds.1) then .error .badBrace else .ok (bounds, rest)
    | _, _ => if rest.isEmpty then .error .openBrace else .error .badBrace
  match rest with
  | ',' :: rest =>
    let high := rest.takeWhile Char.isDigit
    let rest := rest.drop high.length
    close (number low, if high.isEmpty then none else some (number high)) rest
  | rest => if low.isEmpty then .error .badBrace else close (number low, some (number low)) rest

/-- What a letter behind a backslash stands for. -/
def escaped? (c : Char) : Option Regex :=
  match c with
  | 'w' => some (.one .word)
  | 'W' => some (.one CharSet.word.opposite)
  | 's' => some (.one .space)
  | 'S' => some (.one CharSet.space.opposite)
  | 'b' => some (.place .wordEdge)
  | 'B' => some (.place .notWordEdge)
  | '<' => some (.place .wordStart)
  | '>' => some (.place .wordEnd)
  | '\x60' => some (.place .textStart)
  | '\'' => some (.place .textEnd)
  | 'n' => some (.one (.single '\n'))
  | 't' => some (.one (.single '\t'))
  | 'f' => some (.one (.single '\x0c'))
  | 'v' => some (.one (.single '\x0b'))
  | 'r' => some (.one (.single '\r'))
  | 'a' => some (.one (.single '\x07'))
  | _ => none

/-- What is left of an expression, and the number of groups so far. -/
structure Rest where
  chars : List Char
  groups : Nat := 0
  /-- The repetitions with nothing before them. -/
  stray : List Char := []

/-- Reads a part of an expression. -/
abbrev RegexReading := StateT Rest (Except RegexFault)

/-- Moves on by some characters. -/
def moveOn (n : Nat) : RegexReading Unit := modify fun r => { r with chars := r.chars.drop n }

/-- Notes a repetition that has nothing before it. -/
def strayRepeat (c : Char) : RegexReading Regex := do
  modify fun r => { r with chars := r.chars.drop 1, stray := r.stray ++ [c] }
  return .empty

/-- A bar between alternatives comes next; gives its length. -/
def barSize (extended : Bool) : List Char → Nat
  | '|' :: _ => if extended then 1 else 0
  | '\\' :: '|' :: _ => if extended then 0 else 2
  | '\n' :: _ => 0
  | _ => 0

/-- A closing parenthesis comes next; gives its length. -/
def closingSize (extended : Bool) : List Char → Nat
  | ')' :: _ => if extended then 1 else 0
  | '\\' :: ')' :: _ => if extended then 0 else 2
  | _ => 0

/-- A repetition that comes next, without its bounds: its least and most number and its length. -/
def starSize (extended : Bool) : List Char → Option (Nat × Option Nat × Nat)
  | '*' :: _ => some (0, none, 1)
  | '+' :: _ => if extended then some (1, none, 1) else none
  | '?' :: _ => if extended then some (0, some 1, 1) else none
  | '\\' :: '+' :: _ => if extended then none else some (1, none, 2)
  | '\\' :: '?' :: _ => if extended then none else some (0, some 1, 2)
  | _ => none

/-- An opening brace comes next; gives its length. In an extended expression it stands for itself
unless bounds follow it. -/
def braceSize (extended : Bool) : List Char → Nat
  | '\x7b' :: rest =>
    if extended && ((readBounds true rest).isOk || (rest.head?).any Char.isDigit) then 1 else 0
  | '\\' :: '\x7b' :: _ => if extended then 0 else 2
  | _ => 0

mutual

/-- Reads alternatives; `inside` says that a group is open, and `lenient` lets a closing parenthesis
stand for itself in an extended expression. -/
def readAlternatives (extended inside lenient : Bool) : Nat → RegexReading Regex
  | 0 => return .empty
  | fuel + 1 => do
    let first ← readSequence extended inside lenient true fuel .empty
    let size := barSize extended (← get).chars
    if size == 0 then return first
    else
      moveOn size
      return .either first (← readAlternatives extended inside lenient fuel)

/-- Reads parts one after the other, given those before; `start` says that nothing comes before. -/
def readSequence (extended inside lenient start : Bool) : Nat → Regex → RegexReading Regex
  | 0, before => return before
  | fuel + 1, before => do
    let r ← get
    if r.chars.isEmpty || barSize extended r.chars != 0 then return before
    else if closingSize extended r.chars != 0 then
      if inside then return before
      else if extended && lenient then
        moveOn 1
        let part ← readRepeats extended fuel (.one (.single ')'))
        readSequence extended inside lenient false fuel (.sequence before part)
      else throw .closingParenthesis
    else
      let part ← readPart extended lenient start fuel
      let isAnchor := match part with
        | .place .lineStart => !extended
        | _ => false
      let part ← if isAnchor then pure part else readRepeats extended fuel part
      let all := match before with
        | .empty => part
        | before => .sequence before part
      readSequence extended inside lenient (start && isAnchor) fuel all

/-- Reads the repetitions behind a part. -/
def readRepeats (extended : Bool) : Nat → Regex → RegexReading Regex
  | 0, part => return part
  | fuel + 1, part => do
    let r ← get
    match starSize extended r.chars with
    | some (least, most, size) =>
      moveOn size
      readRepeats extended fuel (.repeated part least most)
    | none =>
      let size := braceSize extended r.chars
      if size == 0 then return part
      else
        let ((least, most), rest) ← readBounds extended (r.chars.drop size)
        set { r with chars := rest }
        readRepeats extended fuel (.repeated part least most)

def readPart (extended lenient start : Bool) : Nat → RegexReading Regex
  | 0 => return .empty
  | fuel + 1 => do
    let r ← get
    match r.chars with
    | [] => return .empty
    | '[' :: rest =>
      let (set, rest) ← readBracket rest
      modify fun r => { r with chars := rest }
      return .one set
    | '.' :: _ => do moveOn 1; return .one .all
    | '^' :: _ =>
      moveOn 1
      return if extended || start then .place .lineStart else .one (.single '^')
    | '$' :: rest =>
      moveOn 1
      let ends := rest.isEmpty || barSize extended rest != 0 || closingSize extended rest != 0
      return if extended || ends then .place .lineEnd else .one (.single '$')
    | '(' :: _ => if extended then readGroup extended lenient 1 fuel else do moveOn 1; return .one (.single '(')
    | '*' :: _ => if extended then strayRepeat '*' else do moveOn 1; return .one (.single '*')
    | '+' :: _ => if extended then strayRepeat '+' else do moveOn 1; return .one (.single '+')
    | '?' :: _ => if extended then strayRepeat '?' else do moveOn 1; return .one (.single '?')
    | ')' :: _ => do moveOn 1; return .one (.single ')')
    | '\\' :: c :: _ =>
      if c == '(' && !extended then readGroup extended lenient 2 fuel
      else
        moveOn 2
        if c.isDigit && c != '0' then
          let index := digitValue c
          if index ≤ r.groups then return .again index else throw .badReference
        else if c == '\x7b' && !extended then throw .nothingToRepeat
        else return (escaped? c).getD (.one (.single c))
    | ['\\'] => throw .trailingBackslash
    | c :: _ => do moveOn 1; return .one (.single c)

/-- Reads a group behind its opening parenthesis. -/
def readGroup (extended lenient : Bool) (size : Nat) : Nat → RegexReading Regex
  | 0 => return .empty
  | fuel + 1 => do
    modify fun r => { r with chars := r.chars.drop size, groups := r.groups + 1 }
    let index := (← get).groups
    let body ← readAlternatives extended true lenient fuel
    let closing := closingSize extended (← get).chars
    if closing == 0 then throw .openParenthesis
    else
      moveOn closing
      return .group index body

end

def read (extended lenient : Bool) (text : List Char) : Except RegexFault (Regex × Rest) :=
  (readAlternatives extended false lenient (4 * text.length + 8)).run { chars := text }

/-- Reads an expression; gives it and the number of its groups. -/
def ofText (extended : Bool) (text : List Char) : Except RegexFault (Regex × Nat) := do
  let (r, rest) ← read extended false text
  return (r, rest.groups)

end StackVM.Shell.Regex
