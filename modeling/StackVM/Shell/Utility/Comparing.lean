import StackVM.Shell.Utility.Paths

/-! # Comparing files -/

namespace StackVM.Shell.Comparing

open Paths (withHint)

/-- A step from one list of lines to another one. -/
inductive Step where
  | keep
  | remove
  | add
deriving DecidableEq, Repr

/-- A row of the table of longest common parts, given the row below it. -/
def tableRow (same : String → String → Bool) (x : String) : List String → List Nat → List Nat
  | y :: ys, b :: bs =>
    let row := tableRow same x ys bs
    (if same x y then bs.headD 0 + 1 else max b (row.headD 0)) :: row
  | _, _ => [0]

def table (same : String → String → Bool) (xs ys : List String) : List (List Nat) :=
  let bottom := List.replicate (ys.length + 1) 0
  xs.foldr (fun x rows => tableRow same x ys (rows.headD bottom) :: rows) [bottom]

/-- The steps from one list to another, on a way that keeps as many lines as possible; lines are
removed before others are added. `fuel` bounds the number of steps. -/
def stepsFrom (same : String → String → Bool) :
    Nat → List String → List String → List (List Nat) → List Step
  | 0, _, _, _ => []
  | _, [], ys, _ => ys.map fun _ => .add
  | _, xs, [], _ => xs.map fun _ => .remove
  | fuel + 1, x :: xs, y :: ys, rows =>
    let below := rows.drop 1
    let right := ((rows.headD []).drop 1).headD 0
    if same x y then .keep :: stepsFrom same fuel xs ys (below.map (·.drop 1))
    else if right ≤ (below.headD []).headD 0 then .remove :: stepsFrom same fuel xs (y :: ys) below
    else .add :: stepsFrom same fuel (x :: xs) ys (rows.map (·.drop 1))

/-- Lines that are replaced by others, with the numbers of the lines before them. -/
structure Hunk where
  before : Nat
  removed : List String
  after : Nat
  added : List String

/-- The hunks of steps: `x` and `y` count the lines so far, `current` is the hunk that is open. -/
def hunks : List Step → List String → List String → Nat → Nat → Option Hunk → List Hunk
  | [], _, _, _, _, current => current.toList
  | step :: rest, xs, ys, x, y, current =>
    let open' := current.getD ⟨x, [], y, []⟩
    match step with
    | .keep => current.toList ++ hunks rest (xs.drop 1) (ys.drop 1) (x + 1) (y + 1) none
    | .remove =>
      hunks rest (xs.drop 1) ys (x + 1) y (some { open' with removed := open'.removed ++ xs.take 1 })
    | .add =>
      hunks rest xs (ys.drop 1) x (y + 1) (some { open' with added := open'.added ++ ys.take 1 })

def rangeText (before size : Nat) : String :=
  if size == 0 then numeral before
  else if size == 1 then numeral (before + 1 : Nat)
  else numeral (before + 1 : Nat) ++ "," ++ numeral (before + size : Nat)

/-- A line behind a mark; a missing line break is pointed out. -/
def markedLine (mark line : String) : String :=
  if line.endsWith "\n" then mark ++ line
  else mark ++ line ++ "\n\\ No newline at end of file\n"

/-- A hunk as it is written. -/
def Hunk.text (h : Hunk) : String :=
  let letter := if h.removed.isEmpty then "a" else if h.added.isEmpty then "d" else "c"
  rangeText h.before h.removed.length ++ letter ++ rangeText h.after h.added.length ++ "\n" ++
    String.join (h.removed.map (markedLine "< ")) ++
    (if letter == "c" then "---\n" else "") ++ String.join (h.added.map (markedLine "> "))

/-- Hunks that are at most so many lines apart, together. -/
def nearby (distance : Nat) : List Hunk → List (List Hunk)
  | [] => []
  | h :: rest =>
    match nearby distance rest with
    | (next :: group) :: groups =>
      if next.before ≤ h.before + h.removed.length + distance then (h :: next :: group) :: groups
      else [h] :: (next :: group) :: groups
    | groups => [h] :: groups

def unifiedRange (before size : Nat) : String :=
  if size == 1 then numeral (before + 1 : Nat)
  else numeral (if size == 0 then before else before + 1 : Nat) ++ "," ++ numeral size

/-- A group of hunks with the lines around them. -/
def unifiedText (context : Nat) (xs : Array String) (group : List Hunk) : String :=
  match group, group.getLast? with
  | first :: _, some last =>
    let start := first.before - context
    let stop := min xs.size (last.before + last.removed.length + context)
    let lines := fun (a b : Nat) => String.join ((xs.extract a b).toList.map (markedLine " "))
    let (body, position) := group.foldl (fun ((body : String), (position : Nat)) h =>
      (body ++ lines position h.before ++ String.join (h.removed.map (markedLine "-")) ++
        String.join (h.added.map (markedLine "+")), h.before + h.removed.length)) ("", start)
    let added := group.foldl (fun n h => n + h.added.length) 0
    let removed := group.foldl (fun n h => n + h.removed.length) 0
    "@@ -" ++ unifiedRange start (stop - start) ++ " +" ++
      unifiedRange (first.after - (first.before - start)) (stop - start - removed + added) ++ " @@\n" ++
      body ++ lines position stop
  | _, _ => ""

/-- How lines are compared. -/
def sameLine (a : Arguments) (x y : String) : Bool :=
  let key := fun (line : String) =>
    let cs := line.toList
    let cs := if a.has 'w' then cs.filter fun c => !isSpace c
      else if a.has 'b' then
        let parts := cs.splitBy fun p q => isSpace p == isSpace q
        let joined := parts.flatMap fun part => if isSpace (part.headD 'x') then [' '] else part
        (joined.reverse.dropWhile (· == ' ')).reverse
      else cs
    if a.has 'i' then cs.map Char.toLower else cs
  x == y || key x == key y

def diff (c : Call) : Report :=
  let shape : Arguments.Shape :=
    { plain := "qsiwbBurNa", valued := "U"
      long := [("brief", 'q'), ("unified", 'u'), ("ignore-case", 'i'), ("ignore-all-space", 'w'),
        ("ignore-space-change", 'b'), ("report-identical-files", 's'), ("recursive", 'r')] }
  c.withArguments shape 2 fun a =>
    match a.operands with
    | [first, second] =>
      let inside := fun (path other : String) =>
        if c.files.isDirectory (decode path) then Paths.join path (Paths.baseName other) else path
      let (one, two) := (inside first second, inside second first)
      let r := if Call.isInput one || Call.isInput two then c.takeAll c.quiet else c.quiet
      match c.read one, c.read two with
      | .ok x, .ok y =>
        let (xs, ys) := (fullLines x, fullLines y)
        let same := sameLine a
        let found := hunks (stepsFrom same (xs.length + ys.length + 1) xs ys (table same xs ys))
          xs ys 0 0 none
        if found.isEmpty then
          if a.has 's' then r.print ("Files " ++ one ++ " and " ++ two ++ " are identical\n") else r
        else if a.has 'q' then
          { r.print ("Files " ++ one ++ " and " ++ two ++ " differ\n") with status := 1 }
        else if a.has 'u' || a.has 'U' then
          let context := ((a.value? 'U').bind fun t => wholeNumber? 10 t.toList).getD 3 |>.toNat
          let stamp := "\t1970-01-01 00:00:00.000000000 +0000\n"
          { r.print ("--- " ++ one ++ stamp ++ "+++ " ++ two ++ stamp ++ String.join
              ((nearby (2 * context) found).map (unifiedText context xs.toArray))) with status := 1 }
        else { r.print (String.join (found.map Hunk.text)) with status := 1 }
      | .error e, other =>
        let r := r.warn c.label (one ++ ": " ++ e.text) 2
        match other with
        | .error e => r.warn c.label (two ++ ": " ++ e.text) 2
        | .ok _ => r
      | _, .error e => r.warn c.label (two ++ ": " ++ e.text) 2
    | [] => c.fail 2 (withHint c "missing operand after 'diff'")
    | [one] => c.fail 2 (withHint c ("missing operand after '" ++ one ++ "'"))
    | _ => c.fail 2 (withHint c ("extra operand '" ++ a.operands.getD 2 "" ++ "'"))

/-- The number of the first byte that differs, counted from zero, and that of the line breaks before
it. -/
def firstDifference : List Char → List Char → Nat → Nat → Option (Nat × Nat)
  | x :: xs, y :: ys, n, lines =>
    if x == y then firstDifference xs ys (n + 1) (if x == '\n' then lines + 1 else lines)
    else some (n, lines)
  | _, _, _, _ => none

def cmp (c : Call) : Report :=
  c.withArguments { plain := "slb", valued := "in", long := [("silent", 's'), ("quiet", 's')] } 2
    fun a =>
      let one := a.operands.headD "-"
      let two := a.operands.getD 1 "-"
      let r := if Call.isInput one || Call.isInput two then c.takeAll c.quiet else c.quiet
      match c.read one, c.read two with
      | .ok x, .ok y =>
        match firstDifference x.toList y.toList 0 0 with
        | some (n, lines) =>
          let r := { r with status := 1 }
          if a.has 's' then r
          else if a.has 'l' then
            let pairs := ((x.toList.zip y.toList).zipIdx 1).filter fun ((p, q), _) => p != q
            r.print (String.join (pairs.map fun ((p, q), i) =>
              let octal := fun (ch : Char) => String.ofList (Nat.toDigits 8 ch.toNat)
              numeral (i : Nat) ++ " " ++ octal p ++ " " ++ octal q ++ "\n"))
          else r.print (one ++ " " ++ two ++ " differ: char " ++ numeral (n + 1 : Nat) ++ ", line " ++
            numeral (lines + 1 : Nat) ++ "\n")
        | none =>
          if x.length == y.length then r
          else
            let shorter := if x.length < y.length then (one, x) else (two, y)
            if a.has 's' then { r with status := 1 }
            else
              let place := if shorter.2.isEmpty then " which is empty"
                else " after byte " ++ numeral shorter.2.length ++ ", " ++
                  (if shorter.2.endsWith "\n" then "line " else "in line ") ++
                  numeral ((shorter.2.toList.count '\n') +
                    (if shorter.2.endsWith "\n" then 0 else 1) : Nat)
              r.warn c.label ("EOF on " ++ shorter.1 ++ place) 1
      | .error e, _ => r.warn c.label (one ++ ": " ++ e.text) 2
      | _, .error e => r.warn c.label (two ++ ": " ++ e.text) 2

end StackVM.Shell.Comparing
