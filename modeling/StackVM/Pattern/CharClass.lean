import StackVM.Text.Blank
import StackVM.Text.Word
import StackVM.Text.Case

/-! # Sets of characters -/

namespace StackVM.Pattern

/-- A set of characters, built from ranges and classes. -/
inductive CharClass where
  | empty
  | range (first last : Char)
  | ranges (set : Text.Ranges)
  | digit
  | blank
  | word
  | union (a b : CharClass)
  | inter (a b : CharClass)
  | diff (a b : CharClass)
  | symmDiff (a b : CharClass)
  | compl (a : CharClass)
  /-- All characters that differ from a member at most by letter case. -/
  | folded (a : CharClass)
deriving DecidableEq, Repr

namespace CharClass

def mem : CharClass → Char → Bool
  | .empty, _ => false
  | .range first last, c => first ≤ c && c ≤ last
  | .ranges set, c => set.contains c
  | .digit, c => Text.isDigit c
  | .blank, c => Text.isBlank c
  | .word, c => Text.isWordCharacter c
  | .union a b, c => mem a c || mem b c
  | .inter a b, c => mem a c && mem b c
  | .diff a b, c => mem a c && !mem b c
  | .symmDiff a b, c => mem a c != mem b c
  | .compl a, c => !mem a c
  | .folded a, c => (Text.caseOrbit c).any fun n => mem a (Char.ofNat n)

def single (c : Char) : CharClass := .range c c

def ofRanges : List (Char × Char) → CharClass
  | [] => .empty
  | [(first, last)] => .range first last
  | (first, last) :: rest => .union (.range first last) (ofRanges rest)

/-- The characters of seven bits. -/
def ascii : CharClass := .range '\x00' '\x7f'

/-- The ranges of a class that is known by name. -/
def named? (name : String) : Option CharClass :=
  match name with
  | "alnum" => some (ofRanges [('0', '9'), ('A', 'Z'), ('a', 'z')])
  | "alpha" => some (ofRanges [('A', 'Z'), ('a', 'z')])
  | "ascii" => some ascii
  | "blank" => some (ofRanges [('\t', '\t'), (' ', ' ')])
  | "cntrl" => some (ofRanges [('\x00', '\x1f'), ('\x7f', '\x7f')])
  | "digit" => some (.range '0' '9')
  | "graph" => some (.range '!' '~')
  | "lower" => some (.range 'a' 'z')
  | "print" => some (.range ' ' '~')
  | "punct" => some (ofRanges [('!', '/'), (':', '@'), ('[', '\x60'), ('\x7b', '~')])
  | "space" => some (ofRanges [('\t', '\r'), (' ', ' ')])
  | "upper" => some (.range 'A' 'Z')
  | "word" => some (ofRanges [('0', '9'), ('A', 'Z'), ('_', '_'), ('a', 'z')])
  | "xdigit" => some (ofRanges [('0', '9'), ('A', 'F'), ('a', 'f')])
  | _ => none

/-- The members as ranges of code points in ascending order. -/
def toRanges : CharClass → Text.Ranges
  | .empty => []
  | .range first last => if first ≤ last then [(first.toNat, last.toNat)] else []
  | .ranges set => set
  | .digit => Text.digits
  | .blank => Text.blanks
  | .word => Text.wordCharacters
  | .union a b => (toRanges a).union (toRanges b)
  | .inter a b => (toRanges a).inter (toRanges b)
  | .diff a b => (toRanges a).diff (toRanges b)
  | .symmDiff a b =>
    ((toRanges a).diff (toRanges b)).union ((toRanges b).diff (toRanges a))
  | .compl a => (toRanges a).compl
  | .folded (.range first last) =>
    if first == last then ((Text.caseOrbit first).mergeSort.map fun n => (n, n))
    else Text.Ranges.folded [(first.toNat, last.toNat)]
  | .folded a => (toRanges a).folded

end CharClass

end StackVM.Pattern
