import StackVM.Shell.Expansion
import StackVM.Shell.Utility.Basic

/-! # Builtins on variables and parameters -/

namespace StackVM.Shell.Builtin

/-- The name and the value of an argument such as `name=value`. -/
def splitAssignment (argument : String) : String × Option String :=
  let name := argument.toList.takeWhile (· != '=')
  if name.length == argument.length then (argument, none)
  else (String.ofList name, some (String.ofList (argument.toList.drop (name.length + 1))))

/-- A text in quotes, as the shell could read it again. -/
def quoteText (text : String) : String :=
  String.ofList (go text.toList)
where
  /-- Runs of quotes stand in double quotes, all else in single quotes. -/
  go (cs : List Char) : List Char :=
    let parts := cs.splitBy fun a b => (a == '\'') == (b == '\'')
    let quoted := parts.flatMap fun part =>
      if part.head? == some '\'' then '"' :: part ++ ['"'] else '\'' :: part ++ ['\'']
    if quoted.isEmpty then ['\'', '\''] else quoted

def listMarked (command : String) (marked : Variable → Bool) (s : Session) : Session :=
  s.emit 1 (String.join (s.bindings.filterMap fun (name, v) =>
    if marked v then
      some (command ++ " " ++ name ++ ((v.value.map fun t => "=" ++ quoteText t).getD "") ++ "\n")
    else none))

/-- Sets a mark of variables, and their values where they are given. -/
def markAll (command : String) (marked : Variable → Bool) (change : Variable → Variable)
    (arguments : List String) (s : Session) : Session :=
  let s := { s with status := 0 }
  match arguments with
  | [] | ["-p"] => listMarked command marked s
  | arguments =>
    let arguments := if arguments.head? == some "--" then arguments.tail else arguments
    arguments.foldl (fun s argument =>
      if !s.isRunning then s
      else
        let (name, value) := splitAssignment argument
        if !isName name.toList then s.abort (command ++ ": " ++ name ++ ": bad variable name")
        else
          let s := match value with
            | some value => s.assign name value
            | none => s
          if s.isRunning then s.markVariable name change else s) s

/-- Passes variables on to other programs. -/
def exportVariables : List String → Session → Session :=
  markAll "export" (·.exported) fun v => { v with exported := true }

/-- Protects variables from changes. -/
def protect : List String → Session → Session :=
  markAll "readonly" (·.fixed) fun v => { v with fixed := true }

def unset (arguments : List String) (s : Session) : Session :=
  let (functions, names) := match arguments with
    | "-f" :: rest => (true, rest)
    | "-v" :: rest => (false, rest)
    | rest => (false, rest)
  names.foldl (fun s name =>
    if !s.isRunning then s
    else if functions then { s with functions := s.functions.erase name }
    else if (s.bindings.get? name).any (·.fixed) then
      s.abort ("unset: " ++ name ++ ": is read only")
    else { s with bindings := s.bindings.erase name }) { s with status := 0 }

/-- The names of options and their letters. -/
def optionNames : List (String × Char) :=
  [("errexit", 'e'), ("noglob", 'f'), ("ignoreeof", 'I'), ("interactive", 'i'), ("monitor", 'm'),
    ("noexec", 'n'), ("stdin", 's'), ("xtrace", 'x'), ("verbose", 'v'), ("vi", 'V'),
    ("emacs", 'E'), ("noclobber", 'C'), ("allexport", 'a'), ("notify", 'b'), ("nounset", 'u'),
    ("privileged", 'p'), ("nolog", '\x00'), ("debug", '\x01')]

def listOptions (s : Session) : Session :=
  s.emit 1 ("Current option settings\n" ++ String.join (optionNames.map fun (name, letter) =>
    String.ofList (name.toList ++ List.replicate (16 - name.length) ' ') ++
      (if s.option letter then "on" else "off") ++ "\n"))

/-- Lists the options as commands that set them. -/
def listSettings (s : Session) : Session :=
  s.emit 1 (String.join (optionNames.map fun (name, letter) =>
    (if s.option letter then "set -o " else "set +o ") ++ name ++ "\n"))

def listVariables (s : Session) : Session :=
  s.emit 1 (String.join (s.bindings.filterMap fun (name, v) =>
    v.value.map fun text => name ++ "=" ++ quoteText text ++ "\n"))

/-- Sets options and positional parameters; `fuel` bounds the number of arguments. -/
def setFrom : Nat → List String → Session → Session
  | 0, _, s => s
  | _, [], s => s
  | fuel + 1, argument :: rest, s =>
    match argument.toList with
    | ['-', '-'] => { s with parameters := rest }
    | ['-'] =>
      let s := (s.setOption 'x' false).setOption 'v' false
      if rest.isEmpty then s else { s with parameters := rest }
    | sign :: 'o' :: [] =>
      if sign == '-' || sign == '+' then
        match rest with
        | [] => if sign == '-' then listOptions s else listSettings s
        | name :: rest =>
          match optionNames.lookup name with
          | some letter => setFrom fuel rest (s.setOption letter (sign == '-'))
          | none => s.abort ("set: Illegal option " ++ String.ofList [sign] ++ "o " ++ name)
      else { s with parameters := argument :: rest }
    | sign :: c :: letters =>
      if sign == '-' || sign == '+' then
        match (c :: letters).find? fun c => !"abCefhiImnpsuvxVE".toList.contains c with
        | some c => s.abort ("set: Illegal option -" ++ String.ofList [c])
        | none =>
          setFrom fuel rest ((c :: letters).foldl (fun s c => s.setOption c (sign == '-')) s)
      else { s with parameters := argument :: rest }
    | _ => { s with parameters := argument :: rest }

/-- Sets options and positional parameters, or lists the variables. -/
def set (arguments : List String) (s : Session) : Session :=
  let s := { s with status := 0 }
  if arguments.isEmpty then listVariables s
  else (setFrom (arguments.length + 1) arguments s).restartOptions

def shift (arguments : List String) (s : Session) : Session :=
  match wholeNumber? 10 (arguments.headD "1").toList with
  | none => s.abort ("shift: Illegal number: " ++ arguments.headD "1")
  | some n =>
    if n < 0 then s.abort ("shift: Illegal number: " ++ arguments.headD "1")
    else if s.parameters.length < n.toNat then s.abort "shift: can't shift that many"
    else { s with parameters := s.parameters.drop n.toNat, status := 0 }.restartOptions

/-- Makes variables local to the running function. -/
def makeLocal (arguments : List String) (s : Session) : Session :=
  match s.hidden with
  | [] => s.abort "local: not in a function"
  | _ :: _ =>
    arguments.foldl (fun s argument =>
      if !s.isRunning then s
      else
        let (name, value) := splitAssignment argument
        let s := match s.hidden with
          | frame :: outer =>
            if frame.has name then s
            else { s with hidden := frame.insert name (s.bindings.get? name) :: outer }
          | [] => s
        match value with
        | some value => s.assign name value
        | none => s) { s with status := 0 }

/-- Gives local variables back what they hid. -/
def restoreLocals (frame : Record (Option Variable)) (s : Session) : Session :=
  frame.foldl (fun s (name, old) =>
    { s with bindings := match old with
        | some v => s.bindings.insert name v
        | none => s.bindings.erase name }) s

/-- What `getopts` finds: the letter, the value of `OPTARG`, a message, the argument to go on with
and how far the one before it has been read. -/
structure OptionStep where
  letter : Char
  argument : Option String := some ""
  message : Option String := none
  index : Nat
  offset : Option Nat := none

/-- The characters with which `getopts` goes on, and the argument behind them. An argument of which
all has been read gives way to the next one; nothing is left at one that is no option. -/
def optionRest (arguments : List String) (index : Nat) (offset : Option Nat) :
    Option (List Char × Nat) × Nat :=
  let rest := match offset, arguments[index - 2]? with
    | some offset, some argument => if 1 < index then argument.toList.drop offset else []
    | _, _ => []
  match rest, arguments[index - 1]? with
  | c :: rest, _ => (some (c :: rest, index), index)
  | [], some argument =>
    match argument.toList with
    | ['-', '-'] => (none, index + 1)
    | '-' :: c :: rest => (some (c :: rest, index + 1), index)
    | _ => (none, index)
  | [], none => (none, index)

/-- Reads the next option; an index alone at the end of the options. -/
def nextOption (shape : List Char) (arguments : List String) (index : Nat) (offset : Option Nat) :
    Except Nat OptionStep :=
  let silent := shape.head? == some ':'
  match optionRest arguments index offset with
  | (none, index) => .error index
  | (some ([], index), _) => .error index
  | (some (letter :: rest, index), _) =>
    let argument := arguments.getD (index - 2) ""
    let here := some (argument.length - rest.length)
    let bad := fun (message : String) (shown : Char) (offset : Option Nat) =>
      if silent then
        { letter := shown, argument := some (String.ofList [letter]), index, offset }
      else { letter := '?', argument := none, message := some message, index, offset }
    match if letter == ':' then none else shape.idxOf? letter with
    | none => .ok (bad ("Illegal option -" ++ String.ofList [letter]) '?' here)
    | some i =>
      if shape[i + 1]? != some ':' then .ok { letter, index, offset := here }
      else if !rest.isEmpty then
        .ok { letter, argument := some (String.ofList rest), index }
      else match arguments[index - 1]? with
        | some value => .ok { letter, argument := some value, index := index + 1 }
        | none => .ok (bad ("No arg for -" ++ String.ofList [letter] ++ " option") ':' none)

/-- Reads the next option of the parameters into a variable. -/
def getopts (arguments : List String) (s : Session) : Session :=
  match arguments with
  | shape :: name :: rest =>
    let parameters := if rest.isEmpty then s.parameters else rest
    match nextOption shape.toList parameters s.optionIndex s.optionOffset with
    | .error index =>
      let s := (s.assign "OPTIND" (numeral index)).assign name "?"
      { s with status := 1, optionIndex := index, optionOffset := none }
    | .ok step =>
      let s := match step.message with
        | some message => s.emit 2 (message ++ "\n")
        | none => s
      let s := match step.argument with
        | some value => s.assign "OPTARG" value
        | none => { s with bindings := s.bindings.erase "OPTARG" }
      let s := (s.assign "OPTIND" (numeral step.index)).assign name (String.ofList [step.letter])
      { s with status := 0, optionIndex := step.index, optionOffset := step.offset }
  | _ => s.complain "getopts: Usage: getopts optstring var [arg]" 2

/-- A line that is read: its characters, with a mark on those behind a backslash, how many bytes
were taken, and whether a line break ended it. A backslash joins lines. -/
def takeLine (raw escaped : Bool) (cells : List Cell) (taken : Nat) :
    List UInt8 → List Cell × Nat × Bool
  | [] => (cells.reverse, taken, false)
  | b :: rest =>
    let c := Char.ofNat b.toNat
    if escaped then
      takeLine raw false (if c == '\n' then cells else ⟨c, true⟩ :: cells) (taken + 1) rest
    else if c == '\n' then (cells.reverse, taken + 1, true)
    else if c == '\\' && !raw then takeLine raw true cells (taken + 1) rest
    else if b == 0 then takeLine raw false cells (taken + 1) rest
    else takeLine raw false (⟨c, false⟩ :: cells) (taken + 1) rest

/-- Splits a line into at most so many texts, the last of which takes what is left. -/
def splitFields (separators : List Char) : Nat → List Cell → List String
  | 0, _ => []
  | count + 1, cells =>
    let isBlank := fun (x : Cell) => !x.quoted && isSpace x.char && separators.contains x.char
    let separates := fun (x : Cell) => !x.quoted && separators.contains x.char
    let cells := cells.dropWhile isBlank
    let field := cells.takeWhile fun x => !separates x
    let after := (cells.drop field.length).dropWhile isBlank
    let after := match after with
      | x :: rest =>
        if separates x then rest.dropWhile isBlank else after
      | [] => []
    if count == 0 then
      let trimmed := (cells.reverse.dropWhile isBlank).reverse
      if after.isEmpty then [Expansion.fieldText field] else [Expansion.fieldText trimmed]
    else Expansion.fieldText field :: splitFields separators count after

/-- Reads a line into variables. -/
def read (arguments : List String) (s : Session) : Session :=
  match Arguments.read { plain := "r", valued := "p", strict := true, builtin := true } arguments with
  | .error message => s.complain ("read: " ++ message) 2
  | .ok a =>
    if a.operands.isEmpty then s.complain "read: arg count" 2
    else
      let bytes := match s.available 0 with
        | .ok bytes => bytes
        | .error _ => []
      let (cells, taken, ended) := takeLine (a.has 'r') false [] 0 bytes
      let s := s.modifyStream 0 (Opened.advance taken)
      let texts := splitFields (Expansion.separators s) a.operands.length cells
      let good := a.operands.takeWhile fun name => isName name.toList
      let s := (good.zip (texts ++ List.replicate a.operands.length "")).foldl
        (fun s (name, text) => if s.isRunning then s.assign name text else s) s
      match a.operands.find? fun name => !isName name.toList with
      | some name => s.complain ("read: " ++ name ++ ": bad variable name") 2
      | none => { s with status := if ended then 0 else 1 }

end StackVM.Shell.Builtin
