import StackVM.Shell.Script

/-! # The text of a script

A script is read from left to right. The text of a here-document is taken out of the script as soon
as the redirection that asks for it is read.
-/

namespace StackVM.Shell

inductive ScriptFault where
  | unexpected (found : String) (wanted : Option String)
  | unterminatedQuote
  | unterminatedBackquote
  | missingBrace
  | missingParentheses
  | badFunctionName
  | badLoopVariable
  /-- The script is nested too deeply. -/
  | tooDeep
deriving DecidableEq, Repr

def ScriptFault.text : ScriptFault → String
  | .unexpected found none => "Syntax error: " ++ found ++ " unexpected"
  | .unexpected found (some wanted) =>
    "Syntax error: " ++ found ++ " unexpected (expecting " ++ wanted ++ ")"
  | .unterminatedQuote => "Syntax error: Unterminated quoted string"
  | .unterminatedBackquote => "Syntax error: EOF in backquote substitution"
  | .missingBrace => "Syntax error: Missing '\x7d'"
  | .missingParentheses => "Syntax error: Missing '))'"
  | .badFunctionName => "Syntax error: Bad function name"
  | .badLoopVariable => "Syntax error: Bad for loop variable"
  | .tooDeep => "Syntax error: too deep"

/-- A fault and the line where it was found. -/
structure ScriptError where
  line : Nat
  fault : ScriptFault

/-- What is left of a script. -/
structure Source where
  rest : List Char
  line : Nat := 1
  /-- Lines of here-documents that have been taken out of the rest. -/
  skipped : Nat := 0
  aliases : List (String × String) := []

/-- Reads a part of a script. -/
abbrev Reading := StateT Source (Except ScriptError)

/-- What the next token is. -/
inductive Mark where
  | finish
  | newline
  | semicolon
  | caseEnd
  | ampersand
  | andAnd
  | bar
  | orOr
  | opening
  | closing
  | redirection
  /-- A word; its text if it has no quotes and no expansions. -/
  | word (bare : Option String)
deriving DecidableEq, Repr

namespace Source

/-- White space between words. -/
def isBlank (c : Char) : Bool := c == ' ' || c == '\t'

/-- A character that ends a word. -/
def endsWord (c : Char) : Bool :=
  isBlank c || c == '\n' || c == ';' || c == '&' || c == '|' || c == '<' || c == '>' || c == '(' ||
    c == ')'

/-- A character that makes a word more than its text. -/
def isActive (c : Char) : Bool :=
  c == '\\' || c == '\'' || c == '"' || c == '$' || c == '\x60'

/-- The words that have a meaning of their own where a command starts. -/
def keywords : List String :=
  ["!", "case", "do", "done", "elif", "else", "esac", "fi", "for", "if", "in", "then", "until",
    "while", "\x7b", "\x7d"]

/-- The words with which no command starts, though they have a meaning. -/
def misplaced : List String := ["!", "do", "done", "elif", "else", "esac", "fi", "in", "then", "\x7d"]

/-- The words that end a list of commands. -/
def closers : List String := ["do", "done", "elif", "else", "esac", "fi", "then", "\x7d"]

/-- Skips white space, joined lines and comments; gives the number of lines that were joined. -/
def skipBlanks (comment : Bool) (joined : Nat) : List Char → List Char × Nat
  | [] => ([], joined)
  | c :: rest =>
    if comment then if c == '\n' then (c :: rest, joined) else skipBlanks true joined rest
    else if isBlank c then skipBlanks false joined rest
    else if c == '#' then skipBlanks true joined rest
    else match c, rest with
      | '\\', '\n' :: rest => skipBlanks false (joined + 1) rest
      | _, _ => (c :: rest, joined)

/-- The text of the next word if it has no quotes and no expansions. -/
def bareWord? (cs : List Char) : Option String :=
  let text := cs.takeWhile fun c => !endsWord c
  if text.any isActive then none else some (String.ofList text)

def mark : List Char → Mark
  | [] => .finish
  | '\n' :: _ => .newline
  | ';' :: ';' :: _ => .caseEnd
  | ';' :: _ => .semicolon
  | '&' :: '&' :: _ => .andAnd
  | '&' :: _ => .ampersand
  | '|' :: '|' :: _ => .orOr
  | '|' :: _ => .bar
  | '(' :: _ => .opening
  | ')' :: _ => .closing
  | '<' :: _ | '>' :: _ => .redirection
  | c :: d :: rest =>
    if c.isDigit && (d == '<' || d == '>') then .redirection
    else .word (bareWord? (c :: d :: rest))
  | cs => .word (bareWord? cs)

/-- How a token is called in a message. -/
def Mark.text : Mark → String
  | .finish => "end of file"
  | .newline => "newline"
  | .semicolon => "\";\""
  | .caseEnd => "\";;\""
  | .ampersand => "\"&\""
  | .andAnd => "\"&&\""
  | .bar => "\"|\""
  | .orOr => "\"||\""
  | .opening => "\"(\""
  | .closing => "\")\""
  | .redirection => "redirection"
  | .word (some bare) => if keywords.contains bare then "\"" ++ bare ++ "\"" else "word"
  | .word none => "word"

/-- How many characters a token takes that is not a word. -/
def Mark.size : Mark → Nat
  | .finish => 0
  | .caseEnd | .andAnd | .orOr => 2
  | _ => 1

/-- The rest of a line, up to a line break outside of quotes, and what follows it; `quote` is the
quote that is open, and `escaped` says that a backslash comes before. -/
def splitLine (quote : Option Char) (escaped : Bool) : List Char → List Char × List Char
  | [] => ([], [])
  | c :: rest =>
    if escaped then
      let (line, after) := splitLine quote false rest
      (c :: line, after)
    else if c == '\n' && quote.isNone then ([], c :: rest)
    else
      let next :=
        if quote == some c then none
        else if quote.isNone && (c == '\'' || c == '"') then some c
        else quote
      let (line, after) := splitLine next (c == '\\' && quote != some '\'') rest
      (c :: line, after)

/-- The delimiter of a here-document without its quotes, whether it had any, and what follows it;
`none` if a quote is not closed. -/
def delimiter? (quote : Option Char) : List Char → Option (List Char × Bool × List Char)
  | [] => if quote.isSome then none else some ([], false, [])
  | c :: rest =>
    if quote.isNone && endsWord c then some ([], false, c :: rest)
    else if quote == some c then do
      let (text, _, after) ← delimiter? none rest
      return (text, true, after)
    else if quote.isNone && (c == '\'' || c == '"') then do
      let (text, _, after) ← delimiter? (some c) rest
      return (text, true, after)
    else match quote, c, rest with
      | none, '\\', d :: rest => do
        let (text, _, after) ← delimiter? none rest
        return (d :: text, true, after)
      | quote, c, rest => do
        let (text, quoted, after) ← delimiter? quote rest
        return (c :: text, quoted, after)

/-- The lines up to a delimiter, and what follows it. Leading tabs are dropped if `strip`; `line` is
the current line and `body` what comes before it, both in reverse. -/
def hereBody (strip : Bool) (stop : List Char) (line body : List Char) :
    List Char → List Char × List Char
  | [] => ((if line.reverse == stop then body else line ++ body).reverse, [])
  | c :: rest =>
    if c == '\n' then
      if line.reverse == stop then (body.reverse, rest)
      else hereBody strip stop [] ('\n' :: line ++ body) rest
    else if strip && c == '\t' && line.isEmpty then hereBody strip stop [] body rest
    else hereBody strip stop (c :: line) body rest

/-- The text of a variable that is assigned, with its equals sign, at the start of a word. -/
def assignment? (cs : List Char) : Option (List Char) :=
  let name := cs.takeWhile isNameCharacter
  if isName name && (cs.drop name.length).head? == some '=' then some name else none

end Source

namespace Reading

variable {α : Type}

def fail (fault : ScriptFault) : Reading α := fun s => .error ⟨s.line, fault⟩

/-- Gives up at the end of the script. -/
def failAtEnd (fault : ScriptFault) : Reading α := fun s =>
  .error ⟨s.line + s.rest.count '\n', fault⟩

def skip (n : Nat) : Reading Unit := modify fun s =>
  let lines := (s.rest.take n).count '\n'
  { s with
    rest := s.rest.drop n
    line := s.line + lines + if lines == 0 then 0 else s.skipped
    skipped := if lines == 0 then s.skipped else 0 }

def rest : Reading (List Char) := do return (← get).rest

/-- Skips blanks and gives the next token. -/
def mark : Reading Mark := do
  let s ← get
  let (rest, joined) := Source.skipBlanks false 0 s.rest
  set { s with rest, line := s.line + joined }
  return Source.mark rest

/-- Skips line breaks, and blanks between them; `fuel` bounds their number. -/
def skipLines : Nat → Reading Unit
  | 0 => pure ()
  | fuel + 1 => do
    match ← mark with
    | .newline => do skip 1; skipLines fuel
    | _ => pure ()

/-- The next token does not fit. -/
def refuse (text : String) (wanted : Option String) : Reading α := do
  if (← mark) = .newline then skip 1
  fail (.unexpected text wanted)

def unexpected (wanted : Option String) : Reading α := do
  refuse (Source.Mark.text (← mark)) wanted

/-- The next token does not fit, and no word has a meaning here. -/
def unexpectedWord (wanted : String) : Reading α := do
  let found := match ← mark with
    | .word _ => "word"
    | m => Source.Mark.text m
  refuse found (some wanted)

def keyword (text : String) : Reading Unit := do
  if (← mark) = .word (some text) then skip text.length
  else unexpected (some ("\"" ++ text ++ "\""))

def closing : Reading Unit := do
  if (← mark) = .closing then skip 1 else unexpected (some "\")\"")

/-- Reads what stands in a text of its own. -/
def within (text : List Char) (reading : Reading α) : Reading α := do
  let s ← get
  let a ← reading.run' { s with rest := text }
  return a

end Reading

end StackVM.Shell
