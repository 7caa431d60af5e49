import StackVM.Pattern.CharClass

/-! # Flags of the extended notation -/

namespace StackVM.Pattern

structure Flags where
  /-- Letter case makes no difference (`i`). -/
  ignoreCase : Bool := false
  /-- The anchors hold at every line (`m`). -/
  multiLine : Bool := false
  /-- A dot also matches a line break (`s`). -/
  dotAll : Bool := false
  /-- Repetitions are lazy unless a question mark follows (`U`). -/
  swapGreed : Bool := false
  /-- A carriage return also ends a line (`R`). -/
  returnEndsLine : Bool := false
  /-- White space and comments are ignored (`x`). -/
  verbose : Bool := false
  /-- Classes range over all characters (`u`). -/
  unicode : Bool := true
deriving DecidableEq, Repr

namespace Flags

/-- Sets the flag of a letter, if the letter is one. -/
def set? (f : Flags) (letter : Char) (on : Bool) : Option Flags :=
  match letter with
  | 'i' => some { f with ignoreCase := on }
  | 'm' => some { f with multiLine := on }
  | 's' => some { f with dotAll := on }
  | 'U' => some { f with swapGreed := on }
  | 'R' => some { f with returnEndsLine := on }
  | 'x' => some { f with verbose := on }
  | 'u' => some { f with unicode := on }
  | _ => none

/-- Closes a set under change of letter case if case is ignored. -/
def fold (f : Flags) (set : CharClass) : CharClass :=
  if !f.ignoreCase then set
  else if f.unicode then .folded set
  else .inter (.folded set) CharClass.ascii

def digit (f : Flags) : CharClass := if f.unicode then .digit else .range '0' '9'

def blank (f : Flags) : CharClass :=
  if f.unicode then .blank else CharClass.ofRanges [('\t', '\r'), (' ', ' ')]

/-- The characters of words. -/
def word (f : Flags) : CharClass :=
  if f.unicode then .word
  else CharClass.ofRanges [('0', '9'), ('A', 'Z'), ('_', '_'), ('a', 'z')]

/-- What a dot matches; a dot needs all characters. -/
def dot? (f : Flags) : Option CharClass :=
  if !f.unicode then none
  else if f.dotAll then some (.compl .empty)
  else if f.returnEndsLine then some (.compl (CharClass.ofRanges [('\n', '\n'), ('\r', '\r')]))
  else some (.compl (.single '\n'))

/-- A character that stands for itself. Without flag `u` only letters of seven bits have a case. -/
def literal (f : Flags) (c : Char) : CharClass :=
  if !f.unicode && 128 ≤ c.toNat then .single c else f.fold (.single c)

end Flags

/-- The settings at the start of a group, read after its question mark. -/
structure FlagList where
  /-- The flags after the settings. -/
  flags : Flags
  /-- A colon ended the settings, so that they apply to the group only. -/
  opensGroup : Bool

/-- Reads settings up to a colon or a closing parenthesis: letters, each at most once, and at most
one minus sign, which switches the flags behind it off and has to have one. `seen` are the letters
so far, `dangling` says that a minus sign was just read. -/
def scanFlags (flags : Flags) (seen : List Char) (on dangling : Bool) :
    List Char → Option (FlagList × List Char)
  | [] => none
  | ':' :: rest => if dangling then none else some (⟨flags, true⟩, rest)
  | ')' :: rest => if dangling || seen.isEmpty then none else some (⟨flags, false⟩, rest)
  | '-' :: rest => if on then scanFlags flags seen false true rest else none
  | c :: rest =>
    if seen.contains c then none
    else match flags.set? c on with
      | some flags => scanFlags flags (c :: seen) on false rest
      | none => none

end StackVM.Pattern
