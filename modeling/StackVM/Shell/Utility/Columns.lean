import StackVM.Shell.Utility.Lines

/-! # Utilities on columns and characters -/

namespace StackVM.Shell.Columns

/-- A range of positions, counted from one; an open one has no last position. -/
structure Span where
  first : Nat
  last : Option Nat

def Span.contains (x : Span) (n : Nat) : Bool := x.first ≤ n && x.last.all (n ≤ ·)

/-- How positions are called in messages. -/
structure PositionWords where
  numbered : String
  value : String
  range : String

def fieldWords : PositionWords := ⟨"fields are", "invalid field value", "invalid field range"⟩

def byteWords : PositionWords :=
  ⟨"byte/character positions are", "invalid byte/character position", "invalid byte or character range"⟩

/-- A position; nothing stands for none. -/
def position (words : PositionWords) (whole cs : List Char) : Except String (Option Nat) :=
  if cs.isEmpty then .ok none
  else if !cs.all Char.isDigit then .error (words.value ++ " '" ++ String.ofList whole ++ "'")
  else
    let n := (readNatural 10 0 cs).1
    if n == 0 then .error (words.numbered ++ " numbered from 1") else .ok (some n)

/-- A range such as `2`, `2-`, `-3` or `2-3`. -/
def Span.ofText (words : PositionWords) (text : List Char) : Except String Span := do
  match text.splitOn '-' with
  | [cs] =>
    match ← position words (cs.dropWhile Char.isDigit) cs with
    | some n => return ⟨n, some n⟩
    | none => .error (words.numbered ++ " numbered from 1")
  | [a, b] =>
    match ← position words text a, ← position words text b with
    | some a, some b => if b < a then .error "invalid decreasing range" else return ⟨a, some b⟩
    | some a, none => return ⟨a, none⟩
    | none, some b => return ⟨1, some b⟩
    | none, none => .error "invalid range with no endpoint: -"
  | _ => .error words.range

def readSpans (words : PositionWords) (text : String) : Except String (List Span) :=
  ((text.toList.map fun c => if c == ' ' then ',' else c).splitOn ',').mapM (Span.ofText words)

/-- The members of a list at chosen positions. -/
def choose {α : Type} (chosen : Nat → Bool) (items : List α) : List α :=
  (items.zipIdx 1).filterMap fun (x, n) => if chosen n then some x else none

/-- Bytes at chosen positions; with an output delimiter, it stands between the ranges. -/
def cutBytes (chosen : Nat → Bool) (starts : Nat → Bool) (delimiter : Option String)
    (line : List Char) : String :=
  match delimiter with
  | none => String.ofList (choose chosen line)
  | some delimiter =>
    let (out, _) := (line.zipIdx 1).foldl (fun (out, any) (c, n) =>
      if !chosen n then (out, any)
      else if any && starts n then (out ++ delimiter ++ String.ofList [c], true)
      else (out ++ String.ofList [c], true)) ("", false)
    out

def cut (c : Call) : Report :=
  let shape : Arguments.Shape :=
    { plain := "snz", valued := "bcfdO!"
      long := [("bytes", 'b'), ("characters", 'c'), ("fields", 'f'), ("delimiter", 'd'),
        ("only-delimited", 's'), ("output-delimiter", 'O'), ("complement", 'C')] }
  let shape := { shape with plain := shape.plain ++ "C" }
  c.withArguments shape 1 fun a =>
    let kinds := a.options.filter fun o => ['b', 'c', 'f'].contains o.1
    match kinds with
    | [] => c.fail 1 ("you must specify a list of bytes, characters, or fields\nTry '" ++ c.label ++
        " --help' for more information.")
    | [(kind, text)] =>
      match readSpans (if kind == 'f' then fieldWords else byteWords) text with
      | .error message =>
        c.fail 1 (message ++ "\nTry '" ++ c.label ++ " --help' for more information.")
      | .ok spans =>
        let inside := fun n => spans.any fun x => x.contains n
        let chosen := fun n => inside n != a.has 'C'
        let starts := fun n => chosen n && (n ≤ 1 || !chosen (n - 1) ||
          (!a.has 'C' && spans.any fun x => x.first == n))
        let delimiter := (a.value? 'd').getD "\t"
        if 1 < delimiter.length then
          c.fail 1 ("the delimiter must be a single character\nTry '" ++ c.label ++
            " --help' for more information.")
        else if (a.value? 'd').isSome && kind != 'f' then
          c.fail 1 ("an input delimiter may be specified only when operating on fields\nTry '" ++
            c.label ++ " --help' for more information.")
        else
          let separator := delimiter.toList.headD '\x00'
          c.eachSource a.sources c.quiet fun r _ text =>
            r.print (String.join ((linesOf text).map fun line =>
              if kind != 'f' then cutBytes chosen starts (a.value? 'O') line.toList ++ "\n"
              else
                let fields := line.toList.splitOn separator
                if fields.length ≤ 1 then if a.has 's' then "" else line ++ "\n"
                else ((a.value? 'O').getD delimiter).intercalate
                  ((choose chosen fields).map String.ofList) ++ "\n"))
    | _ => c.fail 1 ("only one list may be specified\nTry '" ++ c.label ++
        " --help' for more information.")

/-- The delimiters of `paste`, with escapes resolved. -/
def delimiters : List Char → List String
  | [] => []
  | '\\' :: 'n' :: rest => "\n" :: delimiters rest
  | '\\' :: 't' :: rest => "\t" :: delimiters rest
  | '\\' :: '\\' :: rest => "\\" :: delimiters rest
  | '\\' :: '0' :: rest => "" :: delimiters rest
  | c :: rest => String.ofList [c] :: delimiters rest

def joinWith (ds : Array String) (items : List String) : String :=
  String.join (items.mapIdx fun i item =>
    if i == 0 then item else ds.getD ((i - 1) % max ds.size 1) "" ++ item)

/-- Distributes the lines of the input over several columns that all read it. -/
def deal (columns : Nat) (lines : List String) (column : Nat) : List String :=
  (lines.zipIdx).filterMap fun (line, i) => if i % max columns 1 == column then some line else none

def paste (c : Call) : Report :=
  let shape : Arguments.Shape :=
    { plain := "sz", valued := "d", long := [("serial", 's'), ("delimiters", 'd')] }
  c.withArguments shape 1 fun a =>
    let ds := (delimiters ((a.value? 'd').getD "\t").toList).toArray
    let inputs := (a.sources.filter Call.isInput).length
    let r := if inputs == 0 then c.quiet else c.takeAll c.quiet
    let (columns, r, _) := a.sources.foldl (fun (columns, r, seen) path =>
      if Call.isInput path then
        let lines := linesOf c.input
        let mine := if a.has 's' then if seen == 0 then lines else []
          else deal inputs lines seen
        (columns ++ [mine], r, seen + 1)
      else match c.read path with
        | .ok text => (columns ++ [linesOf text], r, seen)
        | .error e => (columns, r.warn c.label (path ++ ": " ++ e.text) 1, seen))
      (([] : List (List String)), r, 0)
    if !a.has 's' && r.status != 0 then r
    else if a.has 's' then r.print (unlines (columns.map fun lines => joinWith ds lines))
    else
      let tables := columns.map List.toArray
      let height := (tables.map Array.size).foldl max 0
      r.print (unlines ((List.range height).map fun i =>
        joinWith ds (tables.map fun t => t.getD i "")))

/-- The characters of a class of `tr`. -/
def classMembers (name : String) : Option (List Char) :=
  let all := (List.range 256).map Char.ofNat
  let ascii := fun (p : Char → Bool) => some (all.filter p)
  match name with
  | "alnum" => ascii Char.isAlphanum
  | "alpha" => ascii Char.isAlpha
  | "blank" => ascii fun c => c == ' ' || c == '\t'
  | "cntrl" => ascii fun c => c.toNat < 32 || c.toNat == 127
  | "digit" => ascii Char.isDigit
  | "graph" => ascii fun c => '!' ≤ c && c ≤ '~'
  | "lower" => ascii fun c => 'a' ≤ c && c ≤ 'z'
  | "print" => ascii fun c => ' ' ≤ c && c ≤ '~'
  | "punct" => ascii fun c => '!' ≤ c && c ≤ '~' && !c.isAlphanum
  | "space" => ascii isSpace
  | "upper" => ascii fun c => 'A' ≤ c && c ≤ 'Z'
  | "xdigit" => ascii fun c => digitValue c < 16
  | _ => none

/-- A part of a set of characters for `tr`. -/
inductive SetPart where
  | chars (cs : List Char)
  /-- A class of letters of one case, which can stand for those of the other. -/
  | caseClass (upper : Bool)
  /-- A character so many times; none means as often as it takes. -/
  | copies (c : Char) (count : Option Nat)

/-- A character that may be escaped, and what follows it. -/
def setChar : List Char → Option (Char × List Char)
  | [] => none
  | '\\' :: c :: rest =>
    let octal := fun (c : Char) => '0' ≤ c && c ≤ '7'
    if octal c then
      let digits := ((c :: rest).take 3).takeWhile octal
      let n := (readNatural 8 0 digits).1
      let digits := if 255 < n then digits.take 2 else digits
      some (Char.ofNat (readNatural 8 0 digits).1, (c :: rest).drop digits.length)
    else
      let d := match c with
        | 'a' => '\x07'
        | 'b' => '\x08'
        | 'f' => '\x0c'
        | 'n' => '\n'
        | 'r' => '\r'
        | 't' => '\t'
        | 'v' => '\x0b'
        | c => c
      some (d, rest)
  | c :: rest => some (c, rest)

/-- The parts of a set; `fuel` bounds their number. -/
def setParts : Nat → List Char → Except String (List SetPart)
  | 0, _ => .ok []
  | _, [] => .ok []
  | fuel + 1, cs => do
    match bracket? cs with
    | some (part, rest) => return (← part) :: (← setParts fuel rest)
    | none =>
      match setChar cs with
      | none => return []
      | some (first, rest) =>
        match rest with
        | '-' :: c :: more =>
          match setChar (c :: more) with
          | some (last, rest) =>
            if last < first then
              .error ("range-endpoints of '" ++ String.ofList [first, '-', last] ++
                "' are in reverse collating sequence order")
            else
              let range := (List.range (last.toNat - first.toNat + 1)).map fun i =>
                Char.ofNat (first.toNat + i)
              return .chars range :: (← setParts fuel rest)
          | none => return .chars [first] :: (← setParts fuel rest)
        | rest => return .chars [first] :: (← setParts fuel rest)
where
  /-- A class, an equivalence class or a repetition in brackets. -/
  bracket? (cs : List Char) : Option (Except String SetPart × List Char) :=
    match cs with
    | '[' :: ':' :: rest =>
      let name := rest.takeWhile (· != ':')
      if rest.drop name.length |>.take 2 |> (· == [':', ']']) then
        let after := rest.drop (name.length + 2)
        some (match String.ofList name with
          | "lower" => .ok (.caseClass false)
          | "upper" => .ok (.caseClass true)
          | name => match classMembers name with
            | some cs => .ok (.chars cs)
            | none => .error ("invalid character class '" ++ name ++ "'"), after)
      else none
    | '[' :: '=' :: c :: '=' :: ']' :: rest => some (.ok (.chars [c]), rest)
    | '[' :: rest =>
      match setChar rest with
      | some (c, '*' :: rest) =>
        let digits := rest.takeWhile Char.isDigit
        match rest.drop digits.length with
        | ']' :: rest =>
          let base := if digits.head? == some '0' then 8 else 10
          let n := (readNatural base 0 digits).1
          some (.ok (.copies c (if n == 0 then none else some n)), rest)
        | _ => none
      | _ => none
    | _ => none

def members (parts : List SetPart) : List Char :=
  parts.flatMap fun part => match part with
    | .chars cs => cs
    | .caseClass upper => (classMembers (if upper then "upper" else "lower")).getD []
    | .copies c count => List.replicate (count.getD 0) c

/-- The characters of the second set, as many as those of the first; its last one is repeated. -/
def stretched (size : Nat) (parts : List SetPart) : List Char :=
  let known := (members parts).length
  let cs := parts.flatMap fun part => match part with
    | .copies c none => List.replicate (size - known) c
    | part => members [part]
  match cs.getLast? with
  | some last => cs ++ List.replicate (size - cs.length) last
  | none => []

/-- Drops repetitions of characters of a set. -/
def squeezeRuns (isMember : Char → Bool) (before : Option Char) : List Char → List Char
  | [] => []
  | c :: rest =>
    if before == some c && isMember c then squeezeRuns isMember before rest
    else c :: squeezeRuns isMember (some c) rest

/-- Where a character occurs in a table of all bytes. -/
def tableOf (cs : List Char) : Array Bool :=
  cs.foldl (fun t c => t.setIfInBounds c.toNat true) (Array.replicate 256 false)

def tr (c : Call) : Report :=
  let shape : Arguments.Shape :=
    { plain := "cCdst", strict := true
      long := [("complement", 'c'), ("delete", 'd'), ("squeeze-repeats", 's'),
        ("truncate-set1", 't')] }
  let wrong := fun (message : String) =>
    c.fail 1 (message ++ "\nTry '" ++ c.label ++ " --help' for more information.")
  c.withArguments shape 1 fun a =>
    let read := fun (text : String) => setParts (text.length + 1) text.toList
    let complement := a.has 'c' || a.has 'C'
    match a.operands with
    | [] => wrong "missing operand"
    | first :: rest =>
      match read first, rest.mapM read with
      | .error message, _ | _, .error message => c.fail 1 message
      | .ok one, .ok others =>
        let plain := members one
        let table := tableOf plain
        let set := if complement then ((List.range 256).map Char.ofNat).filter fun ch =>
            !table.getD ch.toNat false else plain
        let table := tableOf set
        let inSet := fun (ch : Char) => table.getD ch.toNat false
        let out := fun (text : List Char) => (c.takeAll c.quiet).print (String.ofList text)
        match others with
        | [] =>
          if a.has 'd' then
            if a.has 's' then wrong ("missing operand after '" ++ first ++
              "'\nTwo strings must be given when both deleting and squeezing repeats.")
            else out (c.input.toList.filter fun ch => !inSet ch)
          else if a.has 's' then out (squeezeRuns inSet none c.input.toList)
          else wrong ("missing operand after '" ++ first ++
            "'\nTwo strings must be given when translating.")
        | [two] =>
          if a.has 'd' then
            if a.has 's' then
              let second := tableOf (members two)
              out (squeezeRuns (fun ch => second.getD ch.toNat false) none
                (c.input.toList.filter fun ch => !inSet ch))
            else wrong ("extra operand '" ++ rest.headD "" ++
              "'\nOnly one string may be given when deleting without squeezing repeats.")
          else
            let second := stretched set.length two
            if second.isEmpty && !a.has 't' then
              c.fail 1 "when not truncating set1, string2 must be non-empty"
            else
              let set := if a.has 't' then set.take (members two).length else set
              let map := (set.zip second).foldl (fun t (x, y) => t.setIfInBounds x.toNat y)
                ((List.range 256).map Char.ofNat).toArray
              let text := c.input.toList.map fun ch => map.getD ch.toNat ch
              let squeezed := tableOf second
              out (if a.has 's' then squeezeRuns (fun ch => squeezed.getD ch.toNat false) none text
                else text)
        | _ => wrong ("extra operand '" ++ (rest.drop 1).headD "" ++ "'")

/-- How lines are compared to find repetitions. -/
def uniqKey (a : Arguments) (line : String) : List Char :=
  let number := fun (letter : Char) =>
    (a.value? letter).map fun t => (readNatural 10 0 t.toList).1
  let skipField := fun (cs : List Char) =>
    (cs.dropWhile fun c => c == ' ' || c == '\t').dropWhile fun c => !(c == ' ' || c == '\t')
  let cs := (List.range ((number 'f').getD 0)).foldl (fun cs _ => skipField cs) line.toList
  let cs := cs.drop ((number 's').getD 0)
  let cs := match number 'w' with
    | some n => cs.take n
    | none => cs
  if a.has 'i' then cs.map Char.toUpper else cs

def groups (key : String → List Char) (lines : List String) : List (List String) :=
  (lines.map fun l => (l, key l)).splitBy (fun x y => x.2 == y.2) |>.map fun g => g.map (·.1)

def uniq (c : Call) : Report :=
  let shape : Arguments.Shape :=
    { plain := "cduiDz", valued := "fsw"
      long := [("count", 'c'), ("repeated", 'd'), ("unique", 'u'), ("ignore-case", 'i'),
        ("skip-fields", 'f'), ("skip-chars", 's'), ("check-chars", 'w'), ("all-repeated", 'D')] }
  c.withArguments shape 1 fun a =>
    let (text, r) := c.gather [a.operands.headD "-"]
    if r.status != 0 then r
    else
      let all := groups (uniqKey a) (linesOf text)
      let kept := all.filter fun g =>
        (!a.has 'd' || 1 < g.length) && (!a.has 'u' || g.length == 1) && (!a.has 'D' || 1 < g.length)
      let lines := kept.flatMap fun g =>
        if a.has 'D' then g
        else if a.has 'c' then [Lines.padLeft 7 (numeral g.length) ++ " " ++ g.headD ""]
        else [g.headD ""]
      match a.operands with
      | [_, target] =>
        match r.files.write (decode target) (toBytes (unlines lines)) false with
        | .ok files => { r with files }
        | .error e => r.warn c.label (target ++ ": " ++ e.text) 1
      | _ => r.print (unlines lines)

/-- Lines that only one of two sorted lists has, or both; `fuel` bounds their number. -/
def merge : Nat → List String → List String → List (Nat × String)
  | 0, _, _ => []
  | _, [], ys => ys.map (1, ·)
  | _, xs, [] => xs.map (0, ·)
  | fuel + 1, x :: xs, y :: ys =>
    if x == y then (2, x) :: merge fuel xs ys
    else if x < y then (0, x) :: merge fuel xs (y :: ys)
    else (1, y) :: merge fuel (x :: xs) ys

def comm (c : Call) : Report :=
  let shape : Arguments.Shape := { plain := "123z", valued := "O", long := [("output-delimiter", 'O')] }
  c.withArguments shape 1 fun a =>
    match a.operands with
    | [first, second] =>
      match c.read first, c.read second with
      | .ok x, .ok y =>
        let xs := linesOf x
        let ys := linesOf y
        let shown := [!a.has '1', !a.has '2', !a.has '3']
        let tab := (a.value? 'O').getD "\t"
        let rows := (merge (xs.length + ys.length + 1) xs ys).filterMap fun (column, line) =>
          if shown.getD column false then
            let indent := ((shown.take column).filter id).length
            some (String.join (List.replicate indent tab) ++ line)
          else none
        let r := c.print (unlines rows)
        if Call.isInput first || Call.isInput second then c.takeAll r else r
      | .error e, _ => c.fail 1 (first ++ ": " ++ e.text)
      | _, .error e => c.fail 1 (second ++ ": " ++ e.text)
    | [] => c.fail 1 ("missing operand\nTry '" ++ c.label ++ " --help' for more information.")
    | [one] => c.fail 1 ("missing operand after '" ++ one ++ "'\nTry '" ++ c.label ++
        " --help' for more information.")
    | _ => c.fail 1 ("extra operand '" ++ a.operands.getD 2 "" ++ "'\nTry '" ++ c.label ++
        " --help' for more information.")

end StackVM.Shell.Columns
