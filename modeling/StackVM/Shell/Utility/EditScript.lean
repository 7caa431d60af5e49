import StackVM.Shell.Regex.Reader
import StackVM.Shell.Utility.Basic

/-! # Scripts of the line editor

A script is a list of commands with addresses. Blocks and labels are positions in the list.
-/

namespace StackVM.Shell.Editing

/-- How letter case changes in a replacement. -/
inductive CaseChange where
  | upper
  | lower
  | upperNext
  | lowerNext
  | keep
deriving DecidableEq, Repr

inductive Replacement where
  | text (cs : List Char)
  | group (index : Nat)
  | change (c : CaseChange)
deriving DecidableEq, Repr

/-- A regular expression of a script; without one the last that was used is meant. -/
structure EditRegex where
  regex : Option Regex
  mode : RegexMode := {}

inductive Address where
  | line (n : Nat)
  | last
  | matching (r : EditRegex)
  /-- Every so many lines from one on. -/
  | every (first step : Nat)

/-- Where a range of lines ends. -/
inductive RangeEnd where
  | address (a : Address)
  /-- So many lines later. -/
  | after (n : Nat)
  /-- At a multiple of a number. -/
  | multiple (n : Nat)

/-- What a substitution does. -/
structure Substitution where
  regex : EditRegex
  replacement : List Replacement
  everywhere : Bool := false
  /-- The match with this number is the first one that is replaced. -/
  number : Nat := 1
  print : Bool := false
  file : Option String := none

/-- What a command does. -/
inductive Action where
  /-- The commands up to a position belong together. -/
  | block (stop : Nat)
  | nothing
  | substitute (s : Substitution)
  | replaceChars (pairs : List (Char × Char))
  | print
  | printFirst
  | delete
  | deleteFirst
  | next
  | appendNext
  | get
  | getAppend
  | hold
  | holdAppend
  | exchange
  | append (text : String)
  | insert (text : String)
  | change (text : String)
  | lineNumber
  | visible
  | quit (status : Nat) (print : Bool)
  | readFile (path : String)
  | writeFile (path : String)
  | writeFirst (path : String)
  | branch (label : String)
  | branchIf (label : String) (substituted : Bool)
  | label (name : String)
  | clear
  | fileName

/-- A command with its addresses. -/
structure EditCommand where
  first : Option Address := none
  second : Option RangeEnd := none
  negated : Bool := false
  /-- The range starts before the first line. -/
  fromZero : Bool := false
  action : Action

/-- Reads a part of a script. -/
abbrev EditReading := StateT (List Char) (Except String)

/-- The text up to a delimiter, in which a backslash takes its meaning, and what follows it. Within
brackets of an expression a delimiter stands for itself. -/
def takeDelimited (delimiter : Char) (regex : Bool) : Bool → List Char → List Char →
    Option (List Char × List Char)
  | _, [], _ => none
  | bracket, '\\' :: c :: rest, taken =>
    if bracket then takeDelimited delimiter regex bracket (c :: rest) ('\\' :: taken)
    else if c == delimiter && (regex || c != '&') then
      takeDelimited delimiter regex false rest (c :: taken)
    else takeDelimited delimiter regex false rest (c :: '\\' :: taken)
  | bracket, c :: rest, taken =>
    if c == delimiter && !bracket then some (taken.reverse, rest)
    else
      let opens := regex && c == '[' && !bracket
      match opens, rest with
      | true, '^' :: ']' :: rest =>
        takeDelimited delimiter regex true rest (']' :: '^' :: '[' :: taken)
      | true, ']' :: rest => takeDelimited delimiter regex true rest (']' :: '[' :: taken)
      | true, rest => takeDelimited delimiter regex true rest ('[' :: taken)
      | false, '[' :: ':' :: rest => takeDelimited delimiter regex bracket rest (':' :: '[' :: c :: taken)
      | false, rest => takeDelimited delimiter regex (bracket && c != ']') rest (c :: taken)

/-- The character of a numeric escape: a letter for the base, and digits. -/
def numericEscape? (letter : Char) (rest : List Char) : Option (Char × List Char) :=
  let read := fun (base size : Nat) =>
    let digits := (rest.take size).takeWhile (digitValue · < base)
    if digits.isEmpty then none
    else some (Char.ofNat ((readNatural base 0 digits).1 % 256), rest.drop digits.length)
  match letter with
  | 'd' => read 10 3
  | 'o' => read 8 3
  | 'x' => read 16 2
  | _ => none

/-- Resolves escapes that mean a character in an expression; within brackets, too. -/
def resolveEscapes (bracket : Bool) : Nat → List Char → List Char
  | 0, cs => cs
  | _, [] => []
  | fuel + 1, '\\' :: c :: rest =>
    match c with
    | 'n' => if bracket then '\n' :: resolveEscapes bracket fuel rest
      else '\\' :: 'n' :: resolveEscapes bracket fuel rest
    | 't' => '\t' :: resolveEscapes bracket fuel rest
    | c =>
      if bracket then '\\' :: resolveEscapes bracket fuel (c :: rest)
      else match numericEscape? c rest with
        | some (d, rest) =>
          let special := ".*[]^$\\/".toList.contains d
          (if special then ['\\', d] else [d]) ++ resolveEscapes bracket fuel rest
        | none => '\\' :: c :: resolveEscapes bracket fuel rest
  | fuel + 1, '[' :: rest =>
    if bracket then '[' :: resolveEscapes true fuel rest
    else match rest with
      | '^' :: ']' :: rest => '[' :: '^' :: ']' :: resolveEscapes true fuel rest
      | ']' :: rest => '[' :: ']' :: resolveEscapes true fuel rest
      | rest => '[' :: resolveEscapes true fuel rest
  | fuel + 1, ']' :: rest => ']' :: resolveEscapes false fuel rest
  | fuel + 1, c :: rest => c :: resolveEscapes bracket fuel rest

def readRegex (extended : Bool) (text : List Char) (mode : RegexMode) :
    Except String (EditRegex × Nat) := do
  if text.isEmpty then return (⟨none, mode⟩, 9)
  else match Regex.ofText extended (resolveEscapes false (text.length + 1) text) with
    | .ok (r, groups) => return (⟨some r, mode⟩, groups)
    | .error fault => .error fault.text

def readReplacement : Nat → List Char → List Replacement
  | 0, _ => []
  | _, [] => []
  | fuel + 1, '\\' :: c :: rest =>
    if c.isDigit then .group (digitValue c) :: readReplacement fuel rest
    else match c with
      | 'n' => .text ['\n'] :: readReplacement fuel rest
      | 't' => .text ['\t'] :: readReplacement fuel rest
      | 'r' => .text ['\r'] :: readReplacement fuel rest
      | 'f' => .text ['\x0c'] :: readReplacement fuel rest
      | 'v' => .text ['\x0b'] :: readReplacement fuel rest
      | 'a' => .text ['\x07'] :: readReplacement fuel rest
      | 'U' => .change .upper :: readReplacement fuel rest
      | 'L' => .change .lower :: readReplacement fuel rest
      | 'u' => .change .upperNext :: readReplacement fuel rest
      | 'l' => .change .lowerNext :: readReplacement fuel rest
      | 'E' => .change .keep :: readReplacement fuel rest
      | c =>
        match numericEscape? c rest with
        | some (d, rest) => .text [d] :: readReplacement fuel rest
        | none => .text [c] :: readReplacement fuel rest
  | fuel + 1, '&' :: rest => .group 0 :: readReplacement fuel rest
  | fuel + 1, c :: rest => .text [c] :: readReplacement fuel rest

/-- The number at the start of a text. -/
def takeNumber (cs : List Char) : Nat × List Char :=
  let digits := cs.takeWhile Char.isDigit
  ((readNatural 10 0 digits).1, cs.drop digits.length)

def skipSpaces : EditReading Unit := modify fun cs => cs.dropWhile isSpace

def readAddressRegex (extended : Bool) (delimiter : Char) : EditReading Address := do
  match takeDelimited delimiter true false (← get) [] with
  | none => throw "unterminated address regex"
  | some (text, rest) =>
    let letters := rest.takeWhile fun c => c == 'I' || c == 'M'
    set (rest.drop letters.length)
    let mode : RegexMode := { foldCase := letters.contains 'I', multiline := letters.contains 'M' }
    let (r, _) ← readRegex extended text mode
    return .matching r

def readAddress? (extended : Bool) : EditReading (Option Address) := do
  match ← get with
  | '$' :: rest => do set rest; return some .last
  | '/' :: rest => do set rest; return some (← readAddressRegex extended '/')
  | '\\' :: c :: rest => do set rest; return some (← readAddressRegex extended c)
  | c :: rest =>
    if c.isDigit then
      let (n, rest) := takeNumber (c :: rest)
      match rest with
      | '~' :: rest =>
        let (step, rest) := takeNumber rest
        set rest
        return some (.every n step)
      | rest => do set rest; return some (.line n)
    else return none
  | [] => return none

/-- The end of a range, if there is one. -/
def readRangeEnd? (extended : Bool) : EditReading (Option RangeEnd) := do
  skipSpaces
  match ← get with
  | ',' :: rest =>
    set (rest.dropWhile isSpace)
    match ← get with
    | '+' :: rest =>
      let (n, rest) := takeNumber rest
      set rest
      return some (.after n)
    | '~' :: rest =>
      let (n, rest) := takeNumber rest
      set rest
      return some (.multiple n)
    | _ =>
      match ← readAddress? extended with
      | some a => return some (.address a)
      | none => throw "unexpected \x60,'"
  | _ => return none

/-- The rest of a line. -/
def takeLine : EditReading String := do
  let cs ← get
  let line := cs.takeWhile (· != '\n')
  set (cs.drop (line.length + 1))
  return String.ofList line

/-- The text of a command over several lines: a backslash at the end of a line goes on with the next
one, before another character it is dropped. -/
def takeText : List Char → List Char → List Char × List Char
  | [], taken => (taken.reverse, [])
  | '\\' :: c :: rest, taken => takeText rest (c :: taken)
  | '\n' :: rest, taken => (taken.reverse, rest)
  | c :: rest, taken => takeText rest (c :: taken)

/-- The text that a command adds. -/
def readText : EditReading String := do
  let cs := (← get).dropWhile fun c => c == ' ' || c == '\t'
  let cs := match cs with
    | '\\' :: rest =>
      let blank := rest.takeWhile fun c => c == ' ' || c == '\t'
      match rest.drop blank.length with
      | '\n' :: more => more
      | _ => rest
    | cs => cs
  if cs.isEmpty then throw "expected \\ after \x60a', \x60c' or \x60i'"
  else
    let (text, rest) := takeText cs []
    set rest
    return String.ofList text ++ "\n"

/-- A label or a file name: the rest of the line, for labels up to a semicolon. -/
def readLabel : EditReading String := do
  let cs := (← get).dropWhile fun c => c == ' ' || c == '\t'
  let label := cs.takeWhile fun c => c != '\n' && c != ';' && c != '\x7d'
  set (cs.drop label.length)
  return String.ofList ((label.reverse.dropWhile isSpace).reverse)

def readPath : EditReading String := do
  modify fun cs => cs.dropWhile fun c => c == ' ' || c == '\t'
  takeLine

/-- The letters behind a substitution; `fuel` bounds their number. -/
def readFlags : Nat → Substitution → RegexMode → EditReading (Substitution × RegexMode)
  | 0, s, mode => return (s, mode)
  | fuel + 1, s, mode => do
    match ← get with
    | 'g' :: rest => do set rest; readFlags fuel { s with everywhere := true } mode
    | 'p' :: rest => do set rest; readFlags fuel { s with print := true } mode
    | 'i' :: rest | 'I' :: rest => do set rest; readFlags fuel s { mode with foldCase := true }
    | 'm' :: rest | 'M' :: rest => do set rest; readFlags fuel s { mode with multiline := true }
    | 'w' :: rest =>
      set rest
      return ({ s with file := some (← readPath) }, mode)
    | c :: rest =>
      if c.isDigit then
        let (n, rest) := takeNumber (c :: rest)
        if n == 0 then throw "number option to \x60s' command may not be zero"
        else
          set rest
          readFlags fuel { s with number := n } mode
      else if c == ';' || c == '\n' || c == '\x7d' || c == '#' || isSpace c then return (s, mode)
      else throw "unknown option to \x60s'"
    | [] => return (s, mode)

def readSubstitution (extended : Bool) : EditReading Action := do
  match ← get with
  | delimiter :: rest =>
    match takeDelimited delimiter true false rest [] with
    | none => throw "unterminated \x60s' command"
    | some (pattern, rest) =>
      match takeDelimited delimiter false false rest [] with
      | none => throw "unterminated \x60s' command"
      | some (text, rest) =>
        set rest
        let start : Substitution := { regex := ⟨none, {}⟩, replacement := [] }
        let (s, mode) ← readFlags (rest.length + 1) start {}
        let (regex, groups) ← readRegex extended pattern mode
        let replacement := readReplacement (text.length + 1) text
        let missing := replacement.findSome? fun part => match part with
          | .group n => if groups < n then some n else none
          | _ => none
        match missing with
        | some n => throw ("invalid reference \\" ++ numeral n ++ " on \x60s' command's RHS")
        | none => return .substitute { s with regex, replacement }
  | [] => throw "unterminated \x60s' command"

/-- A text in which escapes of single characters are resolved. -/
def plainChars : List Char → List Char
  | '\\' :: 'n' :: rest => '\n' :: plainChars rest
  | '\\' :: 't' :: rest => '\t' :: plainChars rest
  | '\\' :: '\\' :: rest => '\\' :: plainChars rest
  | c :: rest => c :: plainChars rest
  | [] => []

/-- Reads a replacement of characters behind its letter. -/
def readCharPairs : EditReading Action := do
  match ← get with
  | delimiter :: rest =>
    match takeDelimited delimiter false false rest [] with
    | none => throw "unterminated \x60y' command"
    | some (source, rest) =>
      match takeDelimited delimiter false false rest [] with
      | none => throw "unterminated \x60y' command"
      | some (target, rest) =>
        set rest
        let (xs, ys) := (plainChars source, plainChars target)
        if xs.length == ys.length then return .replaceChars (xs.zip ys)
        else throw "strings for \x60y' command are different lengths"
  | [] => throw "unterminated \x60y' command"

/-- The number behind a command. -/
def readStatus : EditReading Nat := do
  let (n, rest) := takeNumber ((← get).dropWhile (· == ' '))
  set rest
  return n

/-- Reads what a command does. -/
def readAction (extended : Bool) (letter : Char) : EditReading Action := do
  match letter with
  | 's' => readSubstitution extended
  | 'y' => readCharPairs
  | 'p' => return .print
  | 'P' => return .printFirst
  | 'd' => return .delete
  | 'D' => return .deleteFirst
  | 'n' => return .next
  | 'N' => return .appendNext
  | 'g' => return .get
  | 'G' => return .getAppend
  | 'h' => return .hold
  | 'H' => return .holdAppend
  | 'x' => return .exchange
  | 'a' => return .append (← readText)
  | 'i' => return .insert (← readText)
  | 'c' => return .change (← readText)
  | '=' => return .lineNumber
  | 'l' => do let _ ← readStatus; return .visible
  | 'q' => return .quit (← readStatus) true
  | 'Q' => return .quit (← readStatus) false
  | 'r' => return .readFile (← readPath)
  | 'w' => return .writeFile (← readPath)
  | 'W' => return .writeFirst (← readPath)
  | 'b' => return .branch (← readLabel)
  | 't' => return .branchIf (← readLabel) true
  | 'T' => return .branchIf (← readLabel) false
  | ':' => return .label (← readLabel)
  | 'z' => return .clear
  | 'F' => return .fileName
  | c => throw ("unknown command: \x60" ++ String.ofList [c] ++ "'")

/-- What may follow a command. -/
def endCommand : EditReading Unit := do
  modify fun cs => cs.dropWhile fun c => c == ' ' || c == '\t'
  match ← get with
  | ';' :: rest | '\n' :: rest => set rest
  | '#' :: _ | '\x7d' :: _ | [] => return
  | _ => throw "extra characters after command"

/-- Reads commands, given those before in reverse and the positions of the blocks that are open. -/
def readCommands (extended : Bool) : Nat → List EditCommand → List Nat →
    EditReading (List EditCommand)
  | 0, done, _ => return done.reverse
  | fuel + 1, done, blocks => do
    modify fun cs => cs.dropWhile fun c => isSpace c || c == ';'
    match ← get with
    | [] => if blocks.isEmpty then return done.reverse else throw "unmatched \x60\x7b'"
    | '#' :: _ =>
      let _ ← takeLine
      readCommands extended fuel done blocks
    | '\x7d' :: rest =>
      match blocks with
      | [] => throw "unexpected \x60\x7d'"
      | start :: blocks =>
        set rest
        endCommand
        let stop := done.length
        let closed := done.mapIdx fun i command =>
          if i + start + 1 == done.length then { command with action := .block stop } else command
        readCommands extended fuel closed blocks
    | _ =>
      let first ← readAddress? extended
      let second ← if first.isSome then readRangeEnd? extended else pure none
      skipSpaces
      let (negated, cs) := match ← get with
        | '!' :: rest => (true, rest.dropWhile fun c => c == '!' || isSpace c)
        | cs => (false, cs)
      let fromZero := match first, second with
        | some (.line 0), some (.address (.matching _)) => true
        | _, _ => false
      let isZero := match first with
        | some (.line 0) => true
        | _ => false
      if isZero && !fromZero then throw "invalid usage of line address 0"
      else match cs with
        | [] => throw "missing command"
        | '\x7b' :: rest =>
          set rest
          let command := { first, second, negated, fromZero, action := .block 0 }
          readCommands extended fuel (command :: done) (done.length :: blocks)
        | letter :: rest =>
          set rest
          let action ← readAction extended letter
          let takesLine := ['a', 'i', 'c', 'r', 'w', 'W'].contains letter
          if !takesLine then endCommand
          readCommands extended fuel ({ first, second, negated, fromZero, action } :: done) blocks

/-- All labels that are jumped to exist. -/
def checkLabels (commands : List EditCommand) : Except String (List EditCommand) :=
  let labels := commands.filterMap fun c => match c.action with
    | .label name => some name
    | _ => none
  let missing := commands.findSome? fun c => match c.action with
    | .branch label | .branchIf label _ =>
      if label.isEmpty || labels.contains label then none else some label
    | _ => none
  match missing with
  | some label => .error ("can't find label for jump to \x60" ++ label ++ "'")
  | none => .ok commands

def readScript (extended : Bool) (text : String) : Except String (List EditCommand) :=
  (do checkLabels (← (readCommands extended (text.length + 2) [] []).run' text.toList))

end StackVM.Shell.Editing
