import StackVM.Shell.Arithmetic
import StackVM.Shell.Glob
import StackVM.Shell.Session

/-! # Expansion of words

A word is expanded piece by piece. What comes from a parameter or a command outside of quotes is
split into fields, and fields with wildcards become the paths that match them.
-/

namespace StackVM.Shell

/-- Runs a command in a shell. -/
abbrev Runner := Command → Session → Session

inductive Item where
  /-- A character; `quoted` takes its meaning as a wildcard, `split` lets it separate fields. -/
  | char (c : Char) (quoted split : Bool)
  /-- There is a field, even if it is empty. -/
  | mark
  /-- The end of a field. -/
  | gap
deriving DecidableEq, Repr

/-- Expands something in a session. -/
abbrev Expanding := StateM Session

namespace Expansion

def itemsOf (quoted split : Bool) (text : String) : List Item :=
  text.toList.map fun c => .char c quoted split

/-- The text of items; `joint` stands between fields. -/
def textOf (joint : String) (items : List Item) : String :=
  String.ofList (items.flatMap fun i =>
    match i with
    | .char c _ _ => [c]
    | .gap => joint.toList
    | .mark => [])

/-- The characters of a pattern. -/
def cellsOf (items : List Item) : List Cell :=
  items.filterMap fun i =>
    match i with
    | .char c quoted _ => some ⟨c, quoted⟩
    | .gap => some ⟨' ', true⟩
    | .mark => none

/-- The characters that separate fields. -/
def separators (s : Session) : List Char :=
  match s.value? "IFS" with
  | some text => text.toList
  | none => [' ', '\t', '\n']

/-- What stands between the positional parameters in one text. -/
def joint (s : Session) : String :=
  match s.value? "IFS" with
  | some text => String.ofList (text.toList.take 1)
  | none => " "

/-- Lists with gaps between them. -/
def withGaps : List (List Item) → List Item
  | [] => []
  | [items] => items
  | items :: rest => items ++ .gap :: withGaps rest

/-- All positional parameters: each one a field of its own, or in quotes with an asterisk one
text. -/
def allParameters (s : Session) (quoted asterisk : Bool) : List Item :=
  if !quoted then withGaps (s.parameters.map (itemsOf false true))
  else if asterisk then itemsOf true false ((joint s).intercalate s.parameters)
  else withGaps (s.parameters.map fun p => .mark :: itemsOf true false p)

/-- The name stands for all positional parameters. -/
def isAll (name : List Char) : Bool := name == ['@'] || name == ['*']

/-- The piece stands for the positional parameters, each one a field. -/
def isEveryParameter : Piece → Bool
  | .parameter ['@'] _ => true
  | _ => false

/-- The items of a parameter that is set. -/
def parameterItems (s : Session) (quoted : Bool) (name : List Char) : List Item :=
  if isAll name then allParameters s quoted (name == ['*'])
  else itemsOf quoted (!quoted) ((s.parameter? name).getD "")

/-- The parameter is set; if an empty value counts as none, it is not empty either. -/
def isSet (s : Session) (name : List Char) (empty : Bool) : Bool :=
  if isAll name then
    !s.parameters.isEmpty && !(empty && s.parameters.all String.isEmpty)
  else match s.parameter? name with
    | some value => !(empty && value.isEmpty)
    | none => false

/-- A parameter that is not set is an error where that is asked for. -/
def checkSet (name : List Char) : Expanding Unit := modify fun s =>
  if s.option 'u' && !isAll name && (s.parameter? name).isNone then
    s.abort (String.ofList name ++ ": parameter not set")
  else s

/-- The output of a command without the line breaks at its end. -/
def outputText (bytes : ByteArray) : String :=
  ofBytes ((bytes.toList.reverse.dropWhile (· == 10)).reverse.filter (· != 0))

/-- Runs a command and gives its output. -/
def substitute (run : Runner) (c : Command) : Expanding String := fun s =>
  let (number, inner) := s.addOpened (.sink ByteArray.empty)
  let after := inner.isolate fun t =>
    run (.subshell c) { t.setStream 1 (some number) with tested := false }
  (outputText (after.written number), { after with
    opened := after.opened.setIfInBounds number .directory
    status := s.status, substituted := some after.status })

/-- The value of an arithmetic expression as a text. -/
def calculate (text : String) : Expanding String := fun s =>
  match Arithmetic.evaluate (fun name => (s.parameter? name.toList).getD "") text.toList with
  | .ok (n, assigned) =>
    (numeral n, assigned.foldl (fun s (name, value) => s.assign name (numeral value)) s)
  | .error e => ("", s.abort (e.text text))

mutual

/-- Expands a piece. Text outside of quotes gets the given marks. -/
def expandPiece (run : Runner) (quoted split : Bool) : Piece → Expanding (List Item)
  | .plain text => return text.map (.char · quoted split)
  | .quoted text => return .mark :: text.map (.char · true false)
  | .double pieces => do
    let items ← expandPieces run true false pieces
    return if items.isEmpty && pieces.any isEveryParameter then [] else .mark :: items
  | .parameter name form => expandForm run quoted name form
  | .arithmetic pieces => do
    let items ← expandPieces run true false pieces
    return itemsOf quoted (!quoted) (← calculate (textOf (joint (← get)) items))
  | .output c => do return itemsOf quoted (!quoted) (← substitute run c)

def expandForm (run : Runner) (quoted : Bool) (name : List Char) : Form → Expanding (List Item)
  | .value => do
    checkSet name
    return parameterItems (← get) quoted name
  | .size => do
    checkSet name
    let s ← get
    let text := if isAll name then (if quoted then joint s else " ").intercalate s.parameters
      else (s.parameter? name).getD ""
    let n := text.length
    return itemsOf quoted (!quoted) (numeral n)
  | .guarded guard empty word => do
    let found := isSet (← get) name empty
    match guard with
    | .useDefault =>
      if found then return parameterItems (← get) quoted name
      else expandPieces run quoted (!quoted) word
    | .replace => if found then expandPieces run quoted (!quoted) word else return []
    | .assignDefault =>
      if found then return parameterItems (← get) quoted name
      else
        let value := textOf (joint (← get)) (← expandPieces run quoted false word)
        modify fun s =>
          if isName name then s.assign (String.ofList name) value
          else s.abort (String.ofList name ++ ": bad variable name")
        return itemsOf quoted (!quoted) value
    | .demand =>
      if found then return parameterItems (← get) quoted name
      else
        let reason := textOf (joint (← get)) (← expandPieces run true false word)
        let reason := if !reason.isEmpty then reason
          else if empty then "parameter not set or null" else "parameter not set"
        modify fun s => s.abort (String.ofList name ++ ": " ++ reason)
        return []
  | .trimmed atEnd longest pattern => do
    checkSet name
    let value := (textOf " " (parameterItems (← get) quoted name)).toList
    let items := Glob.items (cellsOf (← expandPieces run false false pattern))
    let trimmed := if atEnd then Glob.trimEnd items longest value
      else Glob.trimStart items longest value
    return itemsOf quoted (!quoted) (String.ofList trimmed)
  | .unknown => do
    modify fun s => s.abort "Bad substitution"
    return []

/-- Expands pieces one after the other, as long as the shell is running. -/
def expandPieces (run : Runner) (quoted split : Bool) : List Piece → Expanding (List Item)
  | [] => return []
  | piece :: rest => do
    if (← get).isRunning then
      let items ← expandPiece run quoted split piece
      return items ++ (← expandPieces run quoted split rest)
    else return []

end

/-- A tilde at the start of a text stands for a home directory. -/
def homeOf (s : Session) (text : List Char) (ends : Char → Bool) : Option (String × List Char) :=
  match text with
  | '~' :: rest =>
    let user := rest.takeWhile fun c => !ends c
    if user.isEmpty then (s.value? "HOME").map (·, rest)
    else if user == "root".toList then some ("/root", rest.drop user.length)
    else none
  | _ => none

/-- Replaces a tilde at the start of a word. -/
def expandTilde (s : Session) : Word → Word
  | .plain text :: rest =>
    match homeOf s text (· == '/') with
    | some (home, after) =>
      if after.isEmpty && !rest.isEmpty then .plain text :: rest
      else .quoted home.toList :: .plain after :: rest
    | none => .plain text :: rest
  | word => word

/-- Replaces tildes at the start of an assigned text and behind its colons. -/
def expandTildes (s : Session) (word : Word) : Word :=
  (expandAt true word).flatten
where
  /-- Replaces tildes in a text whose parts are separated by colons. -/
  inText (first : Bool) (text : List Char) : Word :=
    let parts := text.splitOn ':'
    let pieces : List Word := parts.mapIdx fun i part =>
      let tail : Word := if i == 0 then [] else [.plain [':']]
      if i == 0 && !first then [.plain part]
      else match homeOf s part (· == '/') with
        | some (home, after) => tail ++ [.quoted home.toList, .plain after]
        | none => tail ++ [.plain part]
    pieces.flatten
  /-- Replaces tildes in pieces. -/
  expandAt (first : Bool) : Word → List Word
    | [] => []
    | .plain text :: rest => inText first text :: expandAt false rest
    | piece :: rest => [piece] :: expandAt false rest

def wordText (run : Runner) (word : Word) : Expanding String := do
  let word := expandTilde (← get) word
  return textOf (joint (← get)) (← expandPieces run false false word)

/-- Expands the value of an assignment. -/
def assignedText (run : Runner) (word : Word) : Expanding String := do
  let word := expandTildes (← get) word
  return textOf (joint (← get)) (← expandPieces run false false word)

/-- Expands a text that stands in quotes as a whole. -/
def quotedText (run : Runner) (word : Word) : Expanding String := do
  return textOf (joint (← get)) (← expandPieces run true false word)

def wordPattern (run : Runner) (word : Word) : Expanding (List GlobItem) := do
  let word := expandTilde (← get) word
  return Glob.items (cellsOf (← expandPieces run false false word))

/-- Fields that are being split: the current one in reverse, if there is one, and whether white
space has just ended one. -/
structure Splitting where
  current : Option (List Cell) := none
  afterBlank : Bool := false
  /-- The finished fields in reverse. -/
  fields : List (List Cell) := []

def Splitting.finish (p : Splitting) : Splitting :=
  match p.current with
  | some cells => { p with current := none, fields := cells.reverse :: p.fields }
  | none => p

/-- Goes on with an item. White space separates fields; any other separator ends a field, which may
be empty. -/
def Splitting.step (separators : List Char) (p : Splitting) : Item → Splitting
  | .mark => { p with current := some (p.current.getD []), afterBlank := false }
  | .gap => { p.finish with afterBlank := false }
  | .char c quoted split =>
    if split && separators.contains c then
      if isSpace c then
        if p.current.isSome then { p.finish with afterBlank := true } else p
      else if p.current.isNone && !p.afterBlank then
        { p with fields := [] :: p.fields }
      else { p.finish with afterBlank := false }
    else { p with current := some (⟨c, quoted⟩ :: p.current.getD []), afterBlank := false }

/-- The fields of an expanded word. -/
def fieldsOf (separators : List Char) (items : List Item) : List (List Cell) :=
  (items.foldl (Splitting.step separators) {}).finish.fields.reverse

def fieldText (cells : List Cell) : String := String.ofList (cells.map (·.char))

/-- The parts of a field between slashes. -/
def components (cells : List Cell) : List (List Cell) :=
  cells.foldr (fun x parts =>
    match x.char, parts with
    | '/', parts => [] :: parts
    | _, part :: parts => (x :: part) :: parts
    | _, [] => [[x]]) [[]]

/-- The paths that one more component leads to. -/
def matchComponent (fs : Files) (last : Bool) (cells : List Cell) (path : String) : List String :=
  let items := Glob.items cells
  let slash := if last then "" else "/"
  if !items.any Glob.GlobItem.isWild then [path ++ fieldText cells ++ slash]
  else
    let names := ((fs.list? (decode (if path.isEmpty then "." else path))).getD []).map encode
    let dotted := items.head? == some (.literal '.')
    let names := if dotted then "." :: ".." :: names else names
    (names.filter fun name =>
      (dotted || !name.startsWith ".") && Glob.accepts items name.toList &&
        (last || fs.isDirectory (decode (path ++ name)))).map fun name => path ++ name ++ slash

/-- The paths that components lead to. -/
def matchComponents (fs : Files) : List (List Cell) → List String → List String
  | [], paths => paths
  | cells :: rest, paths =>
    matchComponents fs rest (paths.flatMap (matchComponent fs rest.isEmpty cells))

/-- Texts in the order of their bytes. -/
def sortTexts (texts : List String) : List String := texts.mergeSort (· ≤ ·)

/-- The paths that match a field with wildcards, or the field itself if there are none. -/
def pathsOf (s : Session) (cells : List Cell) : List String :=
  if s.option 'f' || !(Glob.items cells).any Glob.GlobItem.isWild then [fieldText cells]
  else
    let found := (matchComponents s.files (components cells) [""]).filter fun path =>
      (s.files.entryOrLink? (decode path)).isSome
    if found.isEmpty then [fieldText cells] else sortTexts found

def wordFields (run : Runner) (word : Word) : Expanding (List String) := do
  let word := expandTilde (← get) word
  let items ← expandPieces run false false word
  let s ← get
  return (fieldsOf (separators s) items).flatMap (pathsOf s)

def allFields (run : Runner) : List Word → Expanding (List String)
  | [] => return []
  | word :: rest => do
    let fields ← wordFields run word
    return fields ++ (← allFields run rest)

end Expansion

end StackVM.Shell
