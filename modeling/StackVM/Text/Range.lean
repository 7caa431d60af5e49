/-! # Sets and maps of characters given by ranges of code points -/

namespace StackVM.Text

/-- A set of characters as ranges of code points, both ends included. -/
abbrev Ranges := List (Nat × Nat)

def Ranges.covers (ranges : Ranges) (n : Nat) : Bool := ranges.any fun r => r.1 ≤ n && n ≤ r.2

def Ranges.contains (ranges : Ranges) (c : Char) : Bool := ranges.covers c.toNat

namespace Ranges

/-- Joins ranges that touch or overlap, given in the order of their first code points; `first` and
`last` are the ends of the range before them. -/
def joinFrom (first last : Nat) : Ranges → Ranges
  | [] => [(first, last)]
  | r :: rest =>
    if r.1 ≤ last + 1 then joinFrom first (max last r.2) rest
    else (first, last) :: joinFrom r.1 r.2 rest

/-- Joins ranges that touch or overlap, given in the order of their first code points. -/
def join : Ranges → Ranges
  | [] => []
  | r :: rest => joinFrom r.1 r.2 rest

/-- The code points in either of two sets in ascending order. -/
def union (a b : Ranges) : Ranges := join (List.merge a b fun x y => x.1 ≤ y.1)

/-- The gaps between ranges in ascending order, from a code point on. -/
def gapsFrom (start : Nat) : Ranges → Ranges
  | [] => if start ≤ 0x10ffff then [(start, 0x10ffff)] else []
  | r :: rest =>
    if start < r.1 then (start, r.1 - 1) :: gapsFrom (r.2 + 1) rest else gapsFrom (r.2 + 1) rest

/-- The characters outside of a set in ascending order. -/
def compl (a : Ranges) : Ranges := gapsFrom 0 (union a [(0xd800, 0xdfff)])

def inter (a b : Ranges) : Ranges := compl (union (compl a) (compl b))

def diff (a b : Ranges) : Ranges := inter a (compl b)

/-- The number at the front of a list of hexadecimal digits, and what stands behind it. -/
def readCode (value : Nat) : List Char → Nat × List Char
  | [] => (value, [])
  | c :: rest =>
    if '0' ≤ c && c ≤ '9' then readCode (16 * value + (c.toNat - 0x30)) rest
    else if 'a' ≤ c && c ≤ 'f' then readCode (16 * value + (c.toNat - 0x57)) rest
    else (value, c :: rest)

/-- The code points that a word names, which are `41` alone, all from `41-5a`, or every second one
from `100-12e/2`: the first, the last, the step between them, and what stands behind the word. -/
def readSpan (cs : List Char) : Nat × Nat × Nat × List Char :=
  let (first, rest) := readCode 0 cs
  let (last, rest) := match rest with
    | '-' :: rest => readCode 0 rest
    | rest => (first, rest)
  match rest with
  | '/' :: rest => (first, last, readCode 0 rest)
  | rest => (first, last, 1, rest)

/-- The set that a word names. -/
def readWord (cs : List Char) : Ranges :=
  match readSpan cs with
  | (first, last, 1, _) => [(first, last)]
  | (first, last, step, _) =>
    (List.range ((last - first) / step + 1)).map fun i => (first + i * step, first + i * step)

/-- The set of a text, given in lines, of words with blanks between them. -/
def ofLines (lines : List String) : Ranges :=
  lines.flatMap fun line => (line.splitOn " ").flatMap fun word => readWord word.toList

end Ranges

/-- Every `step`-th code point from `first` to `last` is moved by `delta`. -/
structure Shift where
  first : Nat
  last : Nat
  step : Nat
  delta : Int

/-- Reads the shift of a word that is followed by `>` and how far it moves up, or by `<` and how far
it moves down. -/
def Shift.read (cs : List Char) : Shift :=
  match Ranges.readSpan cs with
  | (first, last, step, '<' :: rest) => ⟨first, last, step, -(Ranges.readCode 0 rest).1⟩
  | (first, last, step, rest) => ⟨first, last, step, (Ranges.readCode 0 (rest.drop 1)).1⟩

def Shift.ofLines (lines : List String) : List Shift :=
  lines.flatMap fun line => (line.splitOn " ").map fun word => read word.toList

/-- The code point is moved by this shift. -/
def Shift.covers (s : Shift) (n : Nat) : Bool :=
  s.first ≤ n && n ≤ s.last && (n - s.first) % s.step == 0

/-- The code points that are moved, each with where it is moved to. -/
def Shift.moves (s : Shift) : List (Nat × Nat) :=
  (List.range ((s.last - s.first) / s.step + 1)).map fun i =>
    (s.first + i * s.step, ((s.first + i * s.step : Nat) + s.delta).toNat)

/-- Where the first shift that covers a code point moves it; other code points stay. -/
def shiftAll (shifts : List Shift) (n : Nat) : Nat :=
  match shifts.find? (·.covers n) with
  | some s => ((n : Int) + s.delta).toNat
  | none => n

/-- The code points that the shifts move to `n`. -/
def preimages (shifts : List Shift) (n : Nat) : List Nat :=
  shifts.filterMap fun s =>
    let source := ((n : Int) - s.delta).toNat
    if s.covers source && ((source : Int) + s.delta).toNat == n then some source else none

end StackVM.Text
