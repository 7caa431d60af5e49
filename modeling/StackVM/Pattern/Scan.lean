import StackVM.Pattern.Expansion
import StackVM.Pattern.Flags
import StackVM.Text.Property
import StackVM.Text.Word

/-! # Reading the small parts of the extended notation

Ignored stretches, escapes, names and counts.
-/

namespace StackVM.Pattern

/-- Skips white space and comments; `comment` says that a comment is being skipped. -/
def skipIgnoredFrom (comment : Bool) : List Char → List Char
  | [] => []
  | c :: rest =>
    if comment then skipIgnoredFrom (c != '\n') rest
    else if Text.isBlank c then skipIgnoredFrom false rest
    else if c == '#' then skipIgnoredFrom true rest
    else c :: rest

/-- Skips what the flags ignore. -/
def skipIgnored (f : Flags) (cs : List Char) : List Char :=
  if f.verbose then skipIgnoredFrom false cs else cs

/-- The first character that is neither white space nor the start of a comment, or the very first
one if there is none. -/
def peekVisible (all : List Char) (comment : Bool) : List Char → Option Char
  | [] => all.head?
  | c :: rest =>
    if Text.isBlank c then peekVisible all comment rest
    else if !comment && c == '#' then peekVisible all true rest
    else some c

/-- The next character, ignored ones left out. -/
def peek (f : Flags) (cs : List Char) : Option Char :=
  if f.verbose then peekVisible cs false cs else cs.head?

/-- What a backslash and the characters behind it stand for. -/
inductive Escape where
  | literal (c : Char)
  | set (set : CharClass)

/-- The value of a hexadecimal digit. -/
def hexValue? (c : Char) : Option Nat :=
  if c.isDigit then some (c.toNat - 48)
  else if 'a' ≤ c && c ≤ 'f' then some (c.toNat - 87)
  else if 'A' ≤ c && c ≤ 'F' then some (c.toNat - 55)
  else none

def isEscapable (c : Char) : Bool :=
  c.toNat < 128 && !c.isAlphanum && c != '<' && c != '>'

/-- The character with a number, unless the number is not one of a character. -/
def character? (n : Nat) : Option Char := if n.isValidChar then some (Char.ofNat n) else none

/-- Reads hexadecimal digits, exactly as many as given. -/
def scanHexDigits (value : Nat) : Nat → List Char → Option (Nat × List Char)
  | 0, cs => some (value, cs)
  | _ + 1, [] => none
  | n + 1, c :: rest => do scanHexDigits (16 * value + (← hexValue? c)) n rest

/-- Reads hexadecimal digits up to a closing brace, at least one. -/
def scanHexBraced (value : Option Nat) : List Char → Option (Nat × List Char)
  | [] => none
  | c :: rest =>
    if c == '\x7d' then value.map (·, rest)
    else do scanHexBraced (some (16 * value.getD 0 + (← hexValue? c))) rest

/-- Reads the number of a character, in braces or with so many digits. -/
def scanNumber (digits : Nat) (cs : List Char) : Option (Char × List Char) := do
  let (n, rest) ← match cs with
    | '\x7b' :: rest => scanHexBraced none rest
    | cs => scanHexDigits 0 digits cs
  return (← character? n, rest)

/-- A text split at the first place where a word stands. -/
def splitAtWord? (word : List Char) (before : List Char) : List Char → Option (List Char × List Char)
  | [] => none
  | c :: rest =>
    if word.isPrefixOf (c :: rest) then some (before.reverse, (c :: rest).drop word.length)
    else splitAtWord? word (c :: before) rest

def propertySet? (text : List Char) : Option CharClass :=
  match splitAtWord? ['!', '='] [] text with
  | some (name, value) => (Text.Property.valued? name value).map fun set => .compl (.ranges set)
  | none =>
    match splitAtWord? [':'] [] text <|> splitAtWord? ['='] [] text with
    | some (name, value) => (Text.Property.valued? name value).map .ranges
    | none => (Text.Property.named? text).map .ranges

/-- Reads a property: one letter, or a text in braces. -/
def scanProperty : List Char → Option (CharClass × List Char)
  | [] => none
  | '\x7b' :: rest =>
    match rest.dropWhile (· != '\x7d') with
    | _ :: after => (propertySet? (rest.takeWhile (· != '\x7d'))).map (·, after)
    | [] => none
  | c :: rest => if c == '\\' then none else (Text.Property.named? [c]).map (.ranges ·, rest)

def scanEscape (f : Flags) : List Char → Option (Escape × List Char)
  | 'd' :: rest => some (.set f.digit, rest)
  | 's' :: rest => some (.set f.blank, rest)
  | 'w' :: rest => some (.set f.word, rest)
  | 'D' :: rest => if f.unicode then some (.set (.compl f.digit), rest) else none
  | 'S' :: rest => if f.unicode then some (.set (.compl f.blank), rest) else none
  | 'W' :: rest => if f.unicode then some (.set (.compl f.word), rest) else none
  | 'p' :: rest => do
    let (set, rest) ← scanProperty rest
    if f.unicode then some (.set (f.fold set), rest) else none
  | 'P' :: rest => do
    let (set, rest) ← scanProperty rest
    if f.unicode then some (.set (.compl (f.fold set)), rest) else none
  | 'x' :: rest => do
    let (c, rest) ← scanNumber 2 rest
    return (.literal c, rest)
  | 'u' :: rest => do
    let (c, rest) ← scanNumber 4 rest
    return (.literal c, rest)
  | 'U' :: rest => do
    let (c, rest) ← scanNumber 8 rest
    return (.literal c, rest)
  | 'a' :: rest => some (.literal '\x07', rest)
  | 'f' :: rest => some (.literal '\x0c', rest)
  | 't' :: rest => some (.literal '\t', rest)
  | 'n' :: rest => some (.literal '\n', rest)
  | 'r' :: rest => some (.literal '\r', rest)
  | 'v' :: rest => some (.literal '\x0b', rest)
  | c :: rest => if isEscapable c then some (.literal c, rest) else none
  | [] => none

/-- A character that may stand in the name of a group. -/
def isNameCharacter (first : Bool) (c : Char) : Bool :=
  c == '_' || Text.isLetter c ||
    (!first && (c == '.' || c == '[' || c == ']' || Text.isLetterOrNumeral c))

def scanName (name : List Char) : List Char → Option (List Char × List Char)
  | [] => none
  | c :: rest =>
    if c == '>' then (if name.isEmpty then none else some (name.reverse, rest))
    else if isNameCharacter name.isEmpty c then scanName (c :: name) rest
    else none

/-- Reads digits; with flag `verbose` ignored characters may stand between them. -/
def scanDigits (f : Flags) (comment : Bool) (value : Option Nat) :
    List Char → Option Nat × List Char
  | [] => (value, [])
  | c :: rest =>
    if comment then scanDigits f (c != '\n') value rest
    else if c.isDigit then scanDigits f false (some (value.getD 0 * 10 + (c.toNat - 48))) rest
    else if f.verbose && Text.isBlank c then scanDigits f false value rest
    else if f.verbose && c == '#' then scanDigits f true value rest
    else (value, c :: rest)

/-- Reads a count with white space around it; the count is absent if there are no digits. -/
def scanCount (f : Flags) (cs : List Char) : Option Nat × List Char :=
  let (value, rest) := scanDigits f false none (cs.dropWhile Text.isBlank)
  (value, rest.dropWhile Text.isBlank)

structure Bounds where
  least : Nat
  most : Option Nat

/-- Counts are 32-bit numbers in ascending order. -/
def Bounds.isValid (b : Bounds) : Bool :=
  b.least < 0x100000000 && (b.most.all fun most => most < 0x100000000 && b.least ≤ most)

def scanBounds (f : Flags) (cs : List Char) : Option (Bounds × List Char) := do
  let (first, cs) := scanCount f (skipIgnored f cs)
  let least ← first
  let (bounds, cs) ← match cs with
    | ',' :: cs =>
      match skipIgnored f cs with
      | '\x7d' :: cs => some (⟨least, none⟩, cs)
      | cs => do
        let (second, cs) := scanCount f cs
        let most ← second
        match cs with
        | '\x7d' :: cs => some (⟨least, some most⟩, cs)
        | _ => none
    | '\x7d' :: cs => some (⟨least, some least⟩, cs)
    | _ => none
  if Bounds.isValid bounds then some (bounds, skipIgnored f cs) else none

end StackVM.Pattern
