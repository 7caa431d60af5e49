import StackVM.Shell.Regex.Reader
import StackVM.Shell.Utility.Paths

/-! # Searching lines -/

namespace StackVM.Shell.Search

/-- What is looked for. -/
structure Query where
  regex : Regex
  mode : RegexMode
  wholeWords : Bool := false
  wholeLines : Bool := false

/-- A match may count: it spans the line or is bounded by what cannot stand in words. -/
def Query.accepts (q : Query) (text : Array Char) (start stop : Nat) : Bool :=
  let before := 0 < start && (text[start - 1]?).any Regex.isWordChar
  let after := (text[stop]?).any Regex.isWordChar
  (!q.wholeLines || start == 0 && stop == text.size) && (!q.wholeWords || !before && !after)

/-- The longest match at a position that counts. -/
def Query.matchAt? (q : Query) (text : Array Char) (start : Nat) : Option (Nat × Nat) :=
  let ways := Regex.advance q.mode (q.regex.refersBack || q.wholeWords || q.wholeLines) text q.regex
    { position := start }
  let stops := (ways.map (·.position)).filter (q.accepts text start)
  stops.foldl (fun best stop => match best with
    | some (s, b) => if b < stop then some (s, stop) else some (s, b)
    | none => some (start, stop)) none

/-- The first match at one of so many positions. -/
def Query.findFrom (q : Query) (text : Array Char) : Nat → Nat → Option (Nat × Nat)
  | 0, _ => none
  | count + 1, start =>
    match q.matchAt? text start with
    | some found => some found
    | none => q.findFrom text count (start + 1)

def Query.find? (q : Query) (text : Array Char) (start : Nat) : Option (Nat × Nat) :=
  q.findFrom text (text.size + 1 - start) start

/-- All matches that are not empty, one after the other, with their positions; `fuel` bounds their
number. -/
def Query.matches (q : Query) (text : Array Char) : Nat → Nat → List (Nat × List Char)
  | 0, _ => []
  | fuel + 1, start =>
    match q.find? text start with
    | none => []
    | some (first, last) =>
      if first == last then if last < text.size then q.matches text fuel (last + 1) else []
      else (first, Regex.slice text first last) :: q.matches text fuel last

def fixed (text : List Char) : Regex :=
  text.foldl (fun r c => .sequence r (.one (.single c))) .empty

/-- An expression for several texts, one of which has to match, and what is strange about it. -/
def combine (extended fixedTexts : Bool) (texts : List String) :
    Except Regex.RegexFault (Regex × List Char) := do
  let all ← texts.mapM fun text =>
    if fixedTexts then .ok (fixed text.toList, [])
    else (Regex.read extended true text.toList).map fun (r, rest) => (r, rest.stray)
  let stray := all.flatMap (·.2)
  match all.map (·.1) with
  | [] => return (.one ⟨[], [], false⟩, stray)
  | first :: rest => return (rest.foldl .either first, stray)

/-- What is done with the lines that are found. -/
structure Style where
  query : Query
  invert : Bool
  count : Bool
  names : Bool
  missing : Bool
  numbers : Bool
  offsets : Bool
  onlyMatches : Bool
  silent : Bool
  most : Option Nat
  before : Nat
  after : Nat

/-- A line with its number, its offset and whether it was found. -/
structure Row where
  number : Nat
  offset : Nat
  text : String
  found : Bool

/-- The rows of a text, up to so many that were found. -/
def rowsOf (s : Style) : Nat → Nat → Option Nat → List String → List Row
  | _, _, _, [] => []
  | number, offset, left, line :: rest =>
    let done := left == some 0
    let found := !done && ((s.query.find? line.toList.toArray 0).isSome != s.invert)
    let left := if found then left.map (· - 1) else left
    ⟨number, offset, line, found⟩ :: rowsOf s (number + 1) (offset + line.length + 1) left rest

/-- What stands before a line: the name of its file, its number and its offset. -/
def labelOf (s : Style) (name : Option String) (mark : String) (row : Row) : String :=
  (name.map (· ++ mark)).getD "" ++ (if s.numbers then numeral row.number ++ mark else "") ++
    (if s.offsets then numeral row.offset ++ mark else "")

/-- The lines that are shown, with those around them; a mark stands between separate groups. -/
def showRows (s : Style) (name : Option String) (rows : List Row) : String :=
  let marks := rows.toArray.map (·.found)
  let near := fun (i : Nat) =>
    (List.range (s.after + 1)).any (fun d => d ≤ i && marks.getD (i - d) false) ||
      (List.range (s.before + 1)).any fun d => marks.getD (i + d) false
  let last? := (rows.zipIdx.filter (·.1.found)).getLast?.map (·.2)
  let visible := rows.zipIdx.filter fun (_, i) =>
    near i && (s.most.isNone || last?.any (i ≤ · + s.after))
  let (text, _) := visible.foldl (fun ((text : List String), (previous : Option Nat)) (row, i) =>
    let gap := (0 < s.before || 0 < s.after) && previous.any (· + 1 < i)
    let line := labelOf s name (if row.found then ":" else "-") row ++ row.text ++ "\n"
    ((if gap then line :: "--\n" :: text else line :: text), some i)) ([], none)
  String.join text.reverse

/-- The matches in the lines that were found. -/
def showMatches (s : Style) (name : Option String) (rows : List Row) : String :=
  String.join (rows.flatMap fun row =>
    if !row.found || s.invert then []
    else
      let text := row.text.toList.toArray
      (s.query.matches text (text.size + 1) 0).map fun (start, m) =>
        labelOf s name ":" { row with offset := row.offset + start } ++ String.ofList m ++ "\n")

/-- The size of what was read up to the last line that was needed. -/
def sizeTo (s : Style) (rows : List Row) : Option Nat :=
  if s.most.isNone then none
  else match (rows.filter (·.found)).getLast? with
    | some row => if (rows.filter (·.found)).length == s.most.getD 0 then
        some (row.offset + row.text.length + 1) else none
    | none => if s.most == some 0 then some 0 else none

/-- Searches one text. Gives what is written and whether something was found. -/
def searchText (s : Style) (name : Option String) (path text : String) : String × Bool :=
  let rows := rowsOf s 1 0 s.most (linesOf text)
  let count := (rows.filter (·.found)).length
  let found := 0 < count
  let shown := name.map (· ++ ":")
  if s.silent then ("", found)
  else if s.names then (if found then path ++ "\n" else "", found)
  else if s.missing then (if found then "" else path ++ "\n", !found)
  else if s.count then (shown.getD "" ++ numeral (count : Nat) ++ "\n", found)
  else if s.onlyMatches then (showMatches s name rows, found)
  else if text.toList.contains '\x00' then
    (if found then "Binary file " ++ path ++ " matches\n" else "", found)
  else (showRows s name rows, found)

mutual

/-- The paths of all files in an entry. -/
def filesBelow (path : String) : Entry → List String
  | .file _ => [path]
  | .directory _ entries => filesIn path entries
  | _ => []

def filesIn (path : String) : List (String × Entry) → List String
  | [] => []
  | (name, e) :: rest => filesBelow (Paths.join path (encode name)) e ++ filesIn path rest

end

/-- Patterns of file names, of which one has to match. -/
def nameAccepted (patterns : List String) (path : String) : Bool :=
  patterns.isEmpty || patterns.any fun pattern =>
    Glob.accepts (Glob.items (pattern.toList.map fun c => ⟨c, false⟩)) (Paths.baseName path).toList

def grep (c : Call) : Report :=
  let shape : Arguments.Shape :=
    { plain := "EFGPivyclLnoqswxhHrRabzUTI", valued := "efmABCdD#!~"
      long := [("extended-regexp", 'E'), ("fixed-strings", 'F'), ("basic-regexp", 'G'),
        ("ignore-case", 'i'), ("invert-match", 'v'), ("count", 'c'), ("files-with-matches", 'l'),
        ("files-without-match", 'L'), ("line-number", 'n'), ("only-matching", 'o'), ("quiet", 'q'),
        ("silent", 'q'), ("no-messages", 's'), ("word-regexp", 'w'), ("line-regexp", 'x'),
        ("no-filename", 'h'), ("with-filename", 'H'), ("recursive", 'r'), ("regexp", 'e'),
        ("file", 'f'), ("max-count", 'm'), ("after-context", 'A'), ("before-context", 'B'),
        ("context", 'C'), ("include", '#'), ("exclude", '!'), ("byte-offset", 'b'),
        ("text", 'a'), ("color", 'T'), ("colour", 'T')] }
  let arguments := c.arguments.map fun argument =>
    match argument.toList with
    | '-' :: d :: rest => if (d :: rest).all Char.isDigit then "-C" ++ String.ofList (d :: rest)
      else argument
    | _ => argument
  let c := { c with arguments }
  c.withArguments shape 2 fun a =>
    let fromFiles := (a.values 'f').map fun path => linesOf ((c.read path).toOption.getD "")
    let given := (a.values 'e').flatMap fun text => text.splitOn "\n"
    let patterns := given ++ fromFiles.flatten
    let (patterns, operands) :=
      if a.has 'e' || a.has 'f' then (patterns, a.operands)
      else ((a.operands.headD "").splitOn "\n", a.operands.drop 1)
    if a.operands.isEmpty && !a.has 'e' && !a.has 'f' then
      { c.quiet with
        status := 2
        chunks := [⟨"Usage: grep [OPTION]... PATTERNS [FILE]...\n" ++
          "Try 'grep --help' for more information.\n", true⟩] }
    else
      let kind := ((a.options.reverse.find? fun o => ['E', 'F', 'G', 'P'].contains o.1).map
        (·.1)).getD (if c.name == "egrep" then 'E' else if c.name == "fgrep" then 'F' else 'G')
      match combine (kind == 'E' || kind == 'P') (kind == 'F') patterns with
      | .error fault => c.fail 2 fault.text
      | .ok (regex, stray) =>
        let start := stray.foldl (fun r ch => r.warn c.label ("warning: " ++ String.ofList [ch] ++
          " at start of expression") 0) c.quiet
        let number := fun (letter : Char) => (a.value? letter).map fun t =>
          (readNatural 10 0 t.toList).1
        let around := (number 'C').getD 0
        let style : Style :=
          { query := { regex, mode := { foldCase := a.has 'i' || a.has 'y' }
                       wholeWords := a.has 'w', wholeLines := a.has 'x' }
            invert := a.has 'v', count := a.has 'c', names := a.has 'l', missing := a.has 'L'
            numbers := a.has 'n', offsets := a.has 'b', onlyMatches := a.has 'o'
            silent := a.has 'q', most := number 'm'
            before := (number 'B').getD around, after := (number 'A').getD around }
        let recursive := a.has 'r' || a.has 'R'
        let sources := if operands.isEmpty then if recursive then ["."] else ["-"] else operands
        let named := (a.has 'H' || recursive || 1 < sources.length) && !a.has 'h'
        let paths := if !recursive then sources
          else sources.flatMap fun path =>
            match c.files.entry? (decode path) with
            | some (.directory mode entries) =>
              (filesBelow path (.directory mode entries)).map fun p =>
                if operands.isEmpty then String.ofList (p.toList.drop 2) else p
            | _ => [path]
        let paths := if recursive then paths.filter (nameAccepted (a.values '#')) else paths
        let (r, found) := paths.foldl (fun ((r : Report), (found : Bool)) path =>
          let name := if Call.isInput path then "(standard input)" else path
          let text := if Call.isInput path then
              .ok (String.ofList (c.input.toList.drop r.taken))
            else c.read path
          match text with
          | .error e =>
            (if a.has 's' then { r with status := 2 }
              else r.warn c.label (path ++ ": " ++ e.text) 2, found)
          | .ok text =>
            let (output, here) := searchText style (if named then some name else none) name text
            let used := if c.seekable then
                (sizeTo style (rowsOf style 1 0 style.most (linesOf text))).getD text.length
              else text.length
            let r := if Call.isInput path then { r with taken := r.taken + used } else r
            (r.print output, found || here)) (start, false)
        { r with status :=
            if found && (a.has 'q' || r.status == 0) then 0 else if r.status != 0 then 2 else 1 }

end StackVM.Shell.Search
