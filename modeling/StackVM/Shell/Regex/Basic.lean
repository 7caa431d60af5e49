import StackVM.Shell.Glob

/-! # Regular expressions of the utilities

The expressions of `grep`, `sed` and `expr`. The match that starts first is taken, and of those the
longest one. Among matches of the same length the marks of the groups are those of the path on which
earlier parts take as much as they can.
-/

namespace StackVM.Shell

structure CharSet where
  ranges : List (Char × Char)
  classes : List String := []
  negated : Bool := false
deriving DecidableEq, Repr

inductive Place where
  | lineStart
  | lineEnd
  | textStart
  | textEnd
  | wordStart
  | wordEnd
  | wordEdge
  | notWordEdge
deriving DecidableEq, Repr

/-- A regular expression. -/
inductive Regex where
  | empty
  | one (set : CharSet)
  | place (p : Place)
  | group (index : Nat) (body : Regex)
  /-- The text of a group once more. -/
  | again (index : Nat)
  | sequence (first second : Regex)
  | either (first second : Regex)
  | repeated (body : Regex) (least : Nat) (most : Option Nat)
deriving Repr

/-- How an expression is applied. -/
structure RegexMode where
  foldCase : Bool := false
  /-- Lines within the text have starts and ends, too. -/
  multiline : Bool := false

/-- The marks of groups: where they start and end. -/
abbrev GroupMarks := List (Nat × Nat × Nat)

/-- A match that is being looked for: how far it has come and the marks of its groups. -/
structure Progress where
  position : Nat
  marks : GroupMarks := []
deriving DecidableEq

structure Found where
  start : Nat
  stop : Nat
  marks : GroupMarks

namespace CharSet

def all : CharSet := ⟨[], [], true⟩

def single (c : Char) : CharSet := ⟨[(c, c)], [], false⟩

def word : CharSet := ⟨[('_', '_')], ["alnum"], false⟩

def space : CharSet := ⟨[], ["space"], false⟩

def opposite (s : CharSet) : CharSet := { s with negated := !s.negated }

def contains (s : CharSet) (foldCase : Bool) (c : Char) : Bool :=
  let holds := fun (c : Char) =>
    s.ranges.any (fun r => r.1 ≤ c && c ≤ r.2) || s.classes.any fun name => Glob.isInClass name c
  (holds c || foldCase && (holds c.toLower || holds c.toUpper)) != s.negated

end CharSet

namespace Regex

/-- A character of a word. -/
def isWordChar (c : Char) : Bool := c.isAlphanum || c == '_'

/-- The place is at a position. -/
def holdsAt (mode : RegexMode) (text : Array Char) (i : Nat) (p : Place) : Bool :=
  let before := 0 < i && (text[i - 1]?).any isWordChar
  let after := (text[i]?).any isWordChar
  match p with
  | .textStart => i == 0
  | .textEnd => i == text.size
  | .lineStart => i == 0 || mode.multiline && text[i - 1]? == some '\n'
  | .lineEnd => i == text.size || mode.multiline && text[i]? == some '\n'
  | .wordStart => !before && after
  | .wordEnd => before && !after
  | .wordEdge => before != after
  | .notWordEdge => before == after

/-- The expression refers back to a group. -/
def refersBack : Regex → Bool
  | .again _ => true
  | .group _ body => body.refersBack
  | .sequence a b | .either a b => a.refersBack || b.refersBack
  | .repeated body _ _ => body.refersBack
  | _ => false

/-- Keeps the first of several ways to get somewhere. If the marks matter for what follows, ways with
other marks are kept, too. -/
def distinct (exact : Bool) : List Progress → List Progress → List Progress
  | [], kept => kept.reverse
  | p :: rest, kept =>
    if kept.any fun q => q.position == p.position && (!exact || q.marks == p.marks) then
      distinct exact rest kept
    else distinct exact rest (p :: kept)

def setMark (index start stop : Nat) (marks : GroupMarks) : GroupMarks :=
  (index, start, stop) :: marks.filter (·.1 != index)

/-- The end of the text of a group if it is found once more at a position. -/
def againEnd? (mode : RegexMode) (text : Array Char) (i : Nat) (mark : Nat × Nat) : Option Nat :=
  let size := mark.2 - mark.1
  let same := fun (a b : Char) => a == b || mode.foldCase && a.toLower == b.toLower
  let all := (List.range size).all fun n =>
    match text[mark.1 + n]?, text[i + n]? with
    | some a, some b => same a b
    | _, _ => false
  if all then some (i + size) else none

/-- Repeats a step any number of times, as long as it moves on; more repetitions come first. A place
that was reached before is not reached again. -/
def repeatFrom (step : Progress → List Progress) (exact : Bool) :
    Nat → Progress → List Progress → List Progress × List Progress
  | 0, p, seen => ([p], seen)
  | fuel + 1, p, seen =>
    if seen.any fun q => q.position == p.position && (!exact || q.marks == p.marks) then ([], seen)
    else
      let next := (step p).filter (p.position < ·.position)
      let (found, seen) := next.foldl (fun (found, seen) q =>
        let (more, seen) := repeatFrom step exact fuel q seen
        (found ++ more, seen)) (([] : List Progress), p :: seen)
      (found ++ [p], seen)

/-- Repeats a step at most so many times, as long as it moves on; more repetitions come first. -/
def repeatUpTo (step : Progress → List Progress) (exact : Bool) : Nat → List Progress → List Progress
  | 0, ps => ps
  | most + 1, ps =>
    let next := distinct exact (ps.flatMap fun p =>
      (step p).filter (p.position < ·.position)) []
    if next.isEmpty then ps
    else distinct exact (repeatUpTo step exact most next ++ ps) []

/-- Repeats a step exactly so many times. -/
def repeatExactly (step : Progress → List Progress) (exact : Bool) :
    Nat → List Progress → List Progress
  | 0, ps => ps
  | least + 1, ps => repeatExactly step exact least (distinct exact (ps.flatMap step) [])

/-- How many characters of a set stand one after the other, up to a number. -/
def runSize (set : CharSet) (foldCase : Bool) (text : Array Char) (start : Nat) : Nat → Nat
  | 0 => 0
  | most + 1 =>
    match text[start]? with
    | some c =>
      if set.contains foldCase c then runSize set foldCase text (start + 1) most + 1 else 0
    | none => 0

/-- All ways to go on with an expression, those that take more first. -/
def advance (mode : RegexMode) (exact : Bool) (text : Array Char) :
    Regex → Progress → List Progress
  | .empty, p => [p]
  | .one set, p =>
    match text[p.position]? with
    | some c => if set.contains mode.foldCase c then [{ p with position := p.position + 1 }] else []
    | none => []
  | .place x, p => if holdsAt mode text p.position x then [p] else []
  | .group index body, p =>
    (advance mode exact text body p).map fun q =>
      { q with marks := setMark index p.position q.position q.marks }
  | .again index, p =>
    match p.marks.lookup index with
    | some mark =>
      match againEnd? mode text p.position mark with
      | some position => [{ p with position }]
      | none => []
    | none => []
  | .sequence a b, p =>
    distinct exact ((advance mode exact text a p).flatMap (advance mode exact text b)) []
  | .either a b, p =>
    distinct exact (advance mode exact text a p ++ advance mode exact text b p) []
  | .repeated (.one set) least most, p =>
    let size := runSize set mode.foldCase text p.position (text.size - p.position)
    let size := match most with
      | some most => min size most
      | none => size
    (List.range (size + 1 - least)).map fun n => { p with position := p.position + size - n }
  | .repeated body least most, p =>
    let step := advance mode exact text body
    let start := repeatExactly step exact least [p]
    distinct exact (match most with
      | some most => repeatUpTo step exact (most - least) start
      | none => start.flatMap fun p =>
          (repeatFrom step exact (text.size + 1 - p.position) p []).1) []

/-- The longest match at a position. -/
def matchAt? (r : Regex) (mode : RegexMode) (text : Array Char) (start : Nat) : Option Found :=
  let ways := advance mode r.refersBack text r { position := start }
  let best := ways.foldl (fun (best : Option Progress) p =>
    match best with
    | some b => if b.position < p.position then some p else some b
    | none => some p) none
  best.map fun p => ⟨start, p.position, p.marks⟩

/-- The first match at one of so many positions. -/
def findFrom (r : Regex) (mode : RegexMode) (text : Array Char) : Nat → Nat → Option Found
  | 0, _ => none
  | count + 1, start =>
    match r.matchAt? mode text start with
    | some found => some found
    | none => findFrom r mode text count (start + 1)

/-- The first match from a position on. -/
def find? (r : Regex) (mode : RegexMode) (text : Array Char) (start : Nat) : Option Found :=
  findFrom r mode text (text.size + 1 - start) start

def slice (text : Array Char) (start stop : Nat) : List Char := (text.extract start stop).toList

end Regex

/-- The text of a group of a match; the group with the number zero is the whole match. -/
def Found.group (f : Found) (text : Array Char) (index : Nat) : List Char :=
  if index == 0 then Regex.slice text f.start f.stop
  else match f.marks.lookup index with
    | some (start, stop) => Regex.slice text start stop
    | none => []

end StackVM.Shell
