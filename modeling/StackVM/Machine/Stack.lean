import StackVM.Value.Basic

/-! # The value stack

The top of the stack comes first. Reading from an empty stack gives null.
-/

namespace StackVM

/-- The values on the stack, the top first. -/
abbrev Stack := List Value

namespace Stack

/-- The stack whose bottom comes first in the list. -/
def ofBottom (values : List Value) : Stack := values.reverse

/-- The values from the bottom up. -/
def fromBottom (s : Stack) : List Value := s.reverse

def peek (s : Stack) : Value := s.headD .null

def below (s : Stack) : Stack := s.tail

/-- The value `depth` places below the top. -/
def peekAt? (s : Stack) (depth : Nat) : Option Value := s[depth]?

/-- The value at an index counted from the bottom. -/
def fromBottom? (s : Stack) (i : Nat) : Option Value :=
  if i < s.length then s[s.length - 1 - i]? else none

/-- Keeps at most `size` values, the lowest ones. -/
def truncate (s : Stack) (size : Nat) : Stack := s.drop (s.length - size)

/-- Exchanges the two topmost values, if there are two. -/
def swap? : Stack → Option Stack
  | a :: b :: rest => some (b :: a :: rest)
  | _ => none

/-- Takes off `n` values, the top first, and appends what each of them gives to the items. -/
def gather (give : Value → List Value) : Nat → Stack → Array Value → Array Value × Stack
  | 0, s, items => (items, s)
  | n + 1, s, items => gather give n s.below (items ++ give s.peek)

/-- Takes off values from the top while they are not null, at most `count` of them. -/
def kept (s : Stack) (count : Nat) : List Value := (s.take count).takeWhile fun v => !v.isNull

/-- What is left below the topmost null; nothing if there is none. -/
def belowNull (s : Stack) : Stack := (s.dropWhile fun v => !v.isNull).tail

/-- Removes everything down to the topmost null, but for at most `count` values on top. -/
def popUntilNull (s : Stack) (count : Nat) : Stack :=
  let kept := s.kept count
  kept ++ belowNull (s.drop kept.length)

end Stack

end StackVM
