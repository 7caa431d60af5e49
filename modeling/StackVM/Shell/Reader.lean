import StackVM.Shell.Source

/-! # Reading scripts

One function for each kind of thing that a script is made of. Every function calls the others with
less `fuel`, of which a script needs no more than a few times its length.
-/

namespace StackVM.Shell

/-- Where pieces stand. -/
inductive Context where
  | word
  /-- In double quotes. -/
  | double
  /-- In a here-document. -/
  | here
  /-- In the braces of a parameter, which may stand in double quotes themselves, or in a
  here-document. -/
  | brace (double here : Bool)
  /-- In an arithmetic expression, within so many parentheses. -/
  | arithmetic (depth : Nat)

namespace Context

/-- The context ends before this character. -/
def stops : Context → Char → Bool
  | .word, c => Source.endsWord c
  | .double, c => c == '"'
  | .here, _ => false
  | .brace _ _, c => c == '\x7d'
  | .arithmetic depth, c => depth == 0 && c == ')'

/-- The character stands for itself. -/
def isOrdinary (x : Context) (c : Char) : Bool :=
  !x.stops c && !Source.isActive c &&
    (match x with
      | .arithmetic _ => c != '(' && c != ')'
      | _ => true)

/-- Single quotes have a meaning. -/
def hasSingleQuotes : Context → Bool
  | .word | .brace false _ => true
  | _ => false

/-- A backslash takes the meaning off this character. -/
def isEscapable (x : Context) (c : Char) : Bool :=
  x.hasSingleQuotes || c == '$' || c == '\x60' || c == '\\' ||
    (match x with
      | .here => false
      | .brace true _ => c == '"' || c == '\x7d'
      | _ => c == '"')

/-- The context belongs to a here-document. -/
def isHere : Context → Bool
  | .here | .brace _ true => true
  | _ => false

/-- What is wrong if the script ends within the context. -/
def endFault? : Context → Option ScriptFault
  | .word | .here => none
  | .double => some .unterminatedQuote
  | .brace quoted document =>
    some (if quoted && !document then .unterminatedQuote else .missingBrace)
  | .arithmetic _ => some .missingParentheses

end Context

/-- Joins neighbouring texts. -/
def joinPieces (pieces : List Piece) : Word :=
  pieces.foldr (fun p joined =>
    match p, joined with
    | .plain a, .plain b :: rest => .plain (a ++ b) :: rest
    | .quoted a, .quoted b :: rest => .quoted (a ++ b) :: rest
    | p, joined => p :: joined) []

/-- The text between backquotes, in which a backslash takes the meaning off another backslash, a
backquote and a dollar sign, and how many characters it takes with the closing backquote. -/
def backquoted? (double escaped : Bool) (count : Nat) : List Char → Option (List Char × Nat)
  | [] => none
  | c :: rest =>
    if escaped then do
      let plain := c == '\x60' || c == '\\' || c == '$' || (double && c == '"')
      let (text, n) ← backquoted? double false (count + 1) rest
      return (if plain then c :: text else '\\' :: c :: text, n)
    else if c == '\x60' then some ([], count + 1)
    else if c == '\\' then backquoted? double true (count + 1) rest
    else do
      let (text, n) ← backquoted? double false (count + 1) rest
      return (c :: text, n)

/-- The name of a parameter at the start of a text in braces. -/
def braceName : List Char → List Char
  | [] => []
  | c :: rest =>
    if c.isDigit then (c :: rest).takeWhile Char.isDigit
    else if isNameCharacter c then (c :: rest).takeWhile isNameCharacter
    else if ['@', '*', '#', '?', '-', '$', '!'].contains c then [c]
    else []

/-- A simple command that is being read, its parts in reverse. -/
structure Draft where
  line : Nat
  assignments : List (List Char × Word) := []
  words : List Word := []
  redirections : List Redirection := []

namespace Draft

def isEmpty (d : Draft) : Bool :=
  d.assignments.isEmpty && d.words.isEmpty && d.redirections.isEmpty

def command (d : Draft) : Command :=
  .simple d.line d.assignments.reverse d.words.reverse d.redirections.reverse

end Draft

/-- The operator of a redirection: what it does with its word, the stream it is for, and its
length. -/
structure Redirector where
  stream : Nat
  kind : Option Opening
  /-- A here-document; the value says whether tabs are dropped. -/
  here : Option Bool := none
  length : Nat

/-- The operator of a redirection behind an optional digit. -/
def redirector (digit : Option Nat) (cs : List Char) : Redirector :=
  let extra := if digit.isSome then 1 else 0
  let input := digit.getD 0
  let output := digit.getD 1
  match cs with
  | '<' :: '<' :: '-' :: _ => ⟨input, none, some true, 3 + extra⟩
  | '<' :: '<' :: _ => ⟨input, none, some false, 2 + extra⟩
  | '<' :: '&' :: _ => ⟨input, none, none, 2 + extra⟩
  | '<' :: '>' :: _ => ⟨input, some .readWrite, none, 2 + extra⟩
  | '<' :: _ => ⟨input, some .read, none, 1 + extra⟩
  | '>' :: '>' :: _ => ⟨output, some .append, none, 2 + extra⟩
  | '>' :: '&' :: _ => ⟨output, none, none, 2 + extra⟩
  | '>' :: '|' :: _ => ⟨output, some (.write true), none, 2 + extra⟩
  | _ => ⟨output, some (.write false), none, 1 + extra⟩

def redirectorOf : List Char → Redirector
  | c :: rest => if c.isDigit then redirector (some (c.toNat - 48)) rest else redirector none (c :: rest)
  | [] => redirector none []

/-- A pipeline of stages; one stage stands for itself. -/
def joinStages : List Command → Command
  | [stage] => stage
  | stages => .pipeline stages

/-- The names of builtins that no function may have. -/
def unnameable : List String :=
  [".", ":", "break", "continue", "eval", "exec", "exit", "export", "readonly", "return", "set",
    "shift", "times", "trap", "unset"]

open Reading

/-- Replaces the first word of a command by what it is short for; `used` are the names that have
been replaced, and `fuel` bounds their number. -/
def replaceAliases : Nat → List String → Reading Unit
  | 0, _ => pure ()
  | fuel + 1, used => do
    match ← mark with
    | .word (some bare) =>
      match (← get).aliases.lookup bare with
      | some text =>
        if used.contains bare then pure ()
        else
          skip bare.length
          modify fun s => { s with rest := text.toList ++ s.rest }
          replaceAliases fuel (bare :: used)
      | none => pure ()
    | _ => pure ()

mutual

/-- Reads pieces up to the end of their context. -/
def readPieces : Nat → Context → Reading (List Piece)
  | 0, _ => fail .tooDeep
  | fuel + 1, x => do
    match ← rest with
    | [] =>
      match x.endFault? with
      | some fault => fail fault
      | none => return []
    | c :: after =>
      if x.stops c then return []
      else
        let (found, x) ← readPiece fuel x c after
        return found ++ (← readPieces fuel x)

/-- Reads the piece that starts with the given character; gives the context behind it. -/
def readPiece : Nat → Context → Char → List Char → Reading (List Piece × Context)
  | 0, _, _, _ => fail .tooDeep
  | fuel + 1, x, c, after =>
    match c with
    | '\\' =>
      match after with
      | [] => do skip 1; return ([.quoted ['\\']], x)
      | '\n' :: _ => do skip 2; return ([], x)
      | d :: _ =>
        if x.isEscapable d then do skip 2; return ([.quoted [d]], x)
        else do skip 1; return ([.quoted ['\\']], x)
    | '\'' =>
      if x.hasSingleQuotes then
        let text := after.takeWhile (· != '\'')
        if text.length == after.length then failAtEnd .unterminatedQuote
        else do skip (text.length + 2); return ([.quoted text], x)
      else do skip 1; return ([.plain ['\'']], x)
    | '"' =>
      match x with
      | .here => do skip 1; return ([.plain ['"']], x)
      | .arithmetic _ => do skip 1; return ([], x)
      | _ => do
        skip 1
        let inner ← readPieces fuel .double
        skip 1
        return ([.double (joinPieces inner)], x)
    | '$' => do
      skip 1
      return ([← readDollar fuel (!x.hasSingleQuotes) x.isHere], x)
    | '\x60' =>
      match backquoted? (!x.hasSingleQuotes) false 0 after with
      | none => failAtEnd .unterminatedBackquote
      | some (text, n) => do
        skip (n + 1)
        return ([.output (← within text (readList fuel true))], x)
    | '(' =>
      match x with
      | .arithmetic depth => do skip 1; return ([.plain ['(']], .arithmetic (depth + 1))
      | _ => do skip 1; return ([.plain ['(']], x)
    | ')' =>
      match x with
      | .arithmetic depth => do skip 1; return ([.plain [')']], .arithmetic (depth - 1))
      | _ => do skip 1; return ([.plain [')']], x)
    | c =>
      let text := c :: after.takeWhile x.isOrdinary
      do skip text.length; return ([.plain text], x)

def readDollar : Nat → Bool → Bool → Reading Piece
  | 0, _, _ => fail .tooDeep
  | fuel + 1, double, here => do
    match ← rest with
    | '(' :: '(' :: _ =>
      skip 2
      let inner ← readPieces fuel (.arithmetic 0)
      match ← rest with
      | ')' :: ')' :: _ =>
        skip 2
        return .arithmetic (joinPieces inner)
      | _ => fail .missingParentheses
    | '(' :: _ =>
      skip 1
      let body ← readList fuel true
      closing
      return .output body
    | '\x7b' :: _ =>
      skip 1
      readBraces fuel double here
    | c :: after =>
      if isNameCharacter c && !c.isDigit then
        let name := (c :: after).takeWhile isNameCharacter
        skip name.length
        return .parameter name .value
      else if c.isDigit || ['@', '*', '#', '?', '-', '$', '!'].contains c then
        skip 1
        return .parameter [c] .value
      else return .plain ['$']
    | [] => return .plain ['$']

/-- Reads a parameter behind its opening brace. -/
def readBraces : Nat → Bool → Bool → Reading Piece
  | 0, _, _ => fail .tooDeep
  | fuel + 1, double, here => do
    let text ← rest
    let name := braceName text
    let measured := braceName (text.drop 1)
    if text.head? == some '#' && !measured.isEmpty &&
        (text.drop (measured.length + 1)).head? == some '\x7d' then
      skip (measured.length + 2)
      return .parameter measured .size
    else
      skip name.length
      let guarded := fun (length : Nat) (guard : Guard) (empty : Bool) => do
        skip length
        let word ← readPieces fuel (.brace double here)
        skip 1
        return .parameter name (.guarded guard empty (joinPieces word))
      let trimmed := fun (length : Nat) (atEnd longest : Bool) => do
        skip length
        let pattern ← readPieces fuel (.brace false here)
        skip 1
        return .parameter name (.trimmed atEnd longest (joinPieces pattern))
      let ignored := fun (length : Nat) (form : Form) => do
        skip length
        let _ ← readPieces fuel (.brace double here)
        skip 1
        return .parameter name form
      match ← rest, name.isEmpty with
      | '\x7d' :: _, false => do skip 1; return .parameter name .value
      | '%' :: '%' :: _, false => trimmed 2 true true
      | '%' :: _, false => trimmed 1 true false
      | '#' :: '#' :: _, false => trimmed 2 false true
      | '#' :: _, false => trimmed 1 false false
      | ':' :: '-' :: _, false => guarded 2 .useDefault true
      | ':' :: '=' :: _, false => guarded 2 .assignDefault true
      | ':' :: '?' :: _, false => guarded 2 .demand true
      | ':' :: '+' :: _, false => guarded 2 .replace true
      | '-' :: _, false => guarded 1 .useDefault false
      | '=' :: _, false => guarded 1 .assignDefault false
      | '?' :: _, false => guarded 1 .demand false
      | '+' :: _, false => guarded 1 .replace false
      | ':' :: '\x7d' :: _, false => ignored 2 .value
      | ':' :: _ :: _, false => ignored 2 .unknown
      | '\x7d' :: _, true => ignored 0 .unknown
      | _, _ => ignored 1 .unknown

def readWord : Nat → Reading Word
  | 0 => fail .tooDeep
  | fuel + 1 => do
    match ← mark with
    | .word _ => return joinPieces (← readPieces fuel .word)
    | _ => unexpected none

def readRedirection : Nat → Reading Redirection
  | 0 => fail .tooDeep
  | fuel + 1 => do
    let r := redirectorOf (← rest)
    skip r.length
    match r.here with
    | some strip =>
      match ← mark with
      | .word _ =>
        match Source.delimiter? none (← rest) with
        | none => failAtEnd .unterminatedQuote
        | some (stop, quoted, after) =>
          let (line, after) := Source.splitLine none false after
          let (body, below) := Source.hereBody strip stop [] [] (after.drop 1)
          modify fun s => { s with
            rest := if after.isEmpty then line else line ++ '\n' :: below
            skipped := s.skipped + body.count '\n' + 1 }
          if quoted then return .here r.stream [.quoted body]
          else return .here r.stream (joinPieces (← within body (readPieces fuel .here)))
      | _ => unexpected none
    | none =>
      let word ← readWord fuel
      match r.kind with
      | some opening => return .file r.stream opening word
      | none => return .duplicate r.stream word

def readRedirections : Nat → Reading (List Redirection)
  | 0 => fail .tooDeep
  | fuel + 1 => do
    match ← mark with
    | .redirection =>
      let r ← readRedirection fuel
      return r :: (← readRedirections fuel)
    | _ => return []

/-- Reads the rest of a simple command, or the definition of a function. -/
def readSimple : Nat → Draft → Reading Command
  | 0, _ => fail .tooDeep
  | fuel + 1, d => do
    match ← mark with
    | .redirection =>
      let r ← readRedirection fuel
      readSimple fuel { d with redirections := r :: d.redirections }
    | .word bare =>
      match d.words, Source.assignment? (← rest) with
      | [], some name =>
        skip (name.length + 1)
        let value ← readPieces fuel .word
        readSimple fuel { d with assignments := (name, joinPieces value) :: d.assignments }
      | _, _ =>
        let word ← readWord fuel
        match d.isEmpty, ← mark with
        | true, .opening =>
          skip 1
          if (← mark) = .closing then skip 1 else unexpectedWord "\")\""
          match bare with
          | some name =>
            if !isName name.toList || unnameable.contains name then fail .badFunctionName
            else
              skipLines fuel
              return .define name.toList (← readCommand fuel)
          | none => fail .badFunctionName
        | _, _ => readSimple fuel { d with words := word :: d.words }
    | _ => if d.isEmpty then unexpected none else return d.command

def readCommand : Nat → Reading Command
  | 0 => fail .tooDeep
  | fuel + 1 => do
    replaceAliases fuel []
    let compound ← readCompound fuel
    match compound with
    | some c =>
      let redirections ← readRedirections fuel
      if redirections.isEmpty then return c else return .redirected c redirections
    | none =>
      match ← mark with
      | .word (some bare) =>
        if Source.misplaced.contains bare then unexpected none
        else readSimple fuel { line := (← get).line }
      | _ => readSimple fuel { line := (← get).line }

/-- Reads a command that is made of others; `none` if the next one is simple. -/
def readCompound : Nat → Reading (Option Command)
  | 0 => fail .tooDeep
  | fuel + 1 => do
    match ← mark with
    | .opening =>
      skip 1
      let body ← readList fuel false
      closing
      return some (.subshell body)
    | .word (some "\x7b") =>
      skip 1
      let body ← readList fuel false
      keyword "\x7d"
      return some body
    | .word (some "if") =>
      skip 2
      return some (← readIf fuel)
    | .word (some "while") =>
      skip 5
      let test ← readList fuel false
      return some (.loop false test (← readDo fuel))
    | .word (some "until") =>
      skip 5
      let test ← readList fuel false
      return some (.loop true test (← readDo fuel))
    | .word (some "for") =>
      skip 3
      return some (← readFor fuel)
    | .word (some "case") =>
      skip 4
      match ← mark with
      | .word _ => pure ()
      | _ => unexpectedWord "word"
      let word ← readWord fuel
      skipLines fuel
      keyword "in"
      return some (.select word (← readCases fuel))
    | _ => return none

def readIf : Nat → Reading Command
  | 0 => fail .tooDeep
  | fuel + 1 => do
    let test ← readList fuel false
    keyword "then"
    let yes ← readList fuel false
    match ← mark with
    | .word (some "elif") =>
      skip 4
      return .conditional test yes (← readIf fuel)
    | .word (some "else") =>
      skip 4
      let no ← readList fuel false
      keyword "fi"
      return .conditional test yes no
    | _ =>
      keyword "fi"
      return .conditional test yes .nothing

def readDo : Nat → Reading Command
  | 0 => fail .tooDeep
  | fuel + 1 => do
    keyword "do"
    let body ← readList fuel false
    keyword "done"
    return body

def readFor : Nat → Reading Command
  | 0 => fail .tooDeep
  | fuel + 1 => do
    match ← mark with
    | .word (some name) =>
      if !isName name.toList then fail .badLoopVariable
      else
        skip name.length
        skipLines fuel
        let words ← match ← mark with
          | .word (some "in") =>
            skip 2
            let words ← readWords fuel
            match ← mark with
            | .newline | .semicolon => do skip 1; pure (some words)
            | _ => unexpected none
          | .semicolon => do skip 1; pure none
          | _ => pure none
        skipLines fuel
        return .each name.toList words (← readDo fuel)
    | _ => fail .badLoopVariable

def readWords : Nat → Reading (List Word)
  | 0 => fail .tooDeep
  | fuel + 1 => do
    match ← mark with
    | .word _ =>
      let word ← readWord fuel
      return word :: (← readWords fuel)
    | _ => return []

/-- Reads cases up to the word that ends them. -/
def readCases : Nat → Reading (List (List Word × Command))
  | 0 => fail .tooDeep
  | fuel + 1 => do
    skipLines fuel
    match ← mark with
    | .word (some "esac") => do skip 4; return []
    | m =>
      if m = .opening then skip 1
      let patterns ← readPatterns fuel
      let body ← readList fuel true
      match ← mark with
      | .caseEnd =>
        skip 2
        return (patterns, body) :: (← readCases fuel)
      | .word (some "esac") => do skip 4; return [(patterns, body)]
      | _ => unexpected (some "\";;\"")

/-- Reads the patterns of a case with the parenthesis behind them. -/
def readPatterns : Nat → Reading (List Word)
  | 0 => fail .tooDeep
  | fuel + 1 => do
    let pattern ← match ← mark with
      | .word _ => readWord fuel
      | m => do skip (Source.Mark.size m); pure []
    match ← mark with
    | .bar =>
      skip 1
      return pattern :: (← readPatterns fuel)
    | .closing => do skip 1; return [pattern]
    | _ => unexpectedWord "\")\""

def readStages : Nat → Reading (List Command)
  | 0 => fail .tooDeep
  | fuel + 1 => do
    let stage ← readCommand fuel
    match ← mark with
    | .bar =>
      skip 1
      skipLines fuel
      return stage :: (← readStages fuel)
    | _ => return [stage]

def readPipeline : Nat → Reading Command
  | 0 => fail .tooDeep
  | fuel + 1 => do
    match ← mark with
    | .word (some "!") =>
      skip 1
      return .negated (joinStages (← readStages fuel))
    | _ => return joinStages (← readStages fuel)

/-- Reads pipelines that are joined by `&&` and `||`, given those before. -/
def readAndOr : Nat → Option (Bool × Command) → Reading Command
  | 0, _ => fail .tooDeep
  | fuel + 1, before => do
    let last ← readPipeline fuel
    let all := match before with
      | none => last
      | some (true, c) => .both c last
      | some (false, c) => .either c last
    match ← mark with
    | .andAnd =>
      skip 2
      skipLines fuel
      readAndOr fuel (some (true, all))
    | .orOr =>
      skip 2
      skipLines fuel
      readAndOr fuel (some (false, all))
    | _ => return all

/-- Reads commands over several lines up to a token that ends them. -/
def readList : Nat → Bool → Reading Command
  | 0, _ => fail .tooDeep
  | fuel + 1, mayBeEmpty => do
    skipLines fuel
    let found ← mark
    let ends := match found with
      | .closing | .caseEnd => true
      | .word (some bare) => Source.closers.contains bare
      | _ => false
    if found = .finish || ends && mayBeEmpty then return .nothing
    else
      let first ← readAndOr fuel none
      match ← mark with
      | .semicolon | .newline =>
        skip 1
        return .sequence first (← readList fuel true)
      | .ampersand =>
        skip 1
        return .sequence (.background first) (← readList fuel true)
      | _ => return first

end

def readLine : Nat → Reading Command
  | 0 => fail .tooDeep
  | fuel + 1 => do
    let first ← readAndOr fuel none
    let found ← mark
    let first := if found = .ampersand then .background first else first
    match found with
    | .semicolon | .ampersand =>
      skip 1
      match ← mark with
      | .newline | .finish => return first
      | _ => return .sequence first (← readLine fuel)
    | .newline | .finish => return first
    | _ => unexpected none

/-- Enough fuel for a script. -/
def Source.fuel (s : Source) : Nat := 8 * s.rest.length + 64

/-- The next line with commands and what follows it; `none` at the end of the script. -/
def Source.next (s : Source) : Except ScriptError (Option Command × Source) :=
  let reading : Reading (Option Command) := do
    skipLines s.fuel
    match ← Reading.mark with
    | .finish => return none
    | _ => return some (← readLine s.fuel)
  reading.run s

end StackVM.Shell
