import StackVM.Pattern.Automaton

/-! # Matching

An automaton reads the text with several threads side by side, the preferred one first. A thread
starts at every position until a match has been found; the threads that started earlier are
preferred. Between two characters every thread is followed through choices, marks and anchors to the
states that take a character. A state that has been visited at a position is not entered again
there: whoever comes first is preferred, and a turn of a repetition that has matched nothing leads
nowhere new. Hence the work is bounded by the length of the text times the number of states.
-/

namespace StackVM.Pattern

/-- The condition holds at a position of the text. -/
def Anchor.holds (text : Array Char) (p : Nat) : Anchor → Bool
  | .textStart => p == 0
  | .textEnd => p == text.size
  | .lineStart => p == 0 || text[p - 1]? == some '\n'
  | .lineEnd => p == text.size || text[p]? == some '\n'
  | .lineStartReturn =>
    p == 0 || text[p - 1]? == some '\n' || (text[p - 1]? == some '\r' && text[p]? != some '\n')
  | .lineEndReturn =>
    p == text.size || text[p]? == some '\r' ||
      (text[p]? == some '\n' && (p == 0 || text[p - 1]? != some '\r'))

/-- Slots and the positions noted in them, the latest first. -/
abbrev Marks := List (Nat × Nat)

/-- A way through the automaton: where it started, the state it has reached and what it has noted.
-/
structure Thread where
  start : Nat
  state : Nat
  marks : Marks := []
deriving DecidableEq, Repr

/-- Where each state was visited last, and the threads that stopped at a position, the latest first.
A visit at a position is noted as the position after it, so that zero stands for no visit. -/
structure Frontier where
  visited : Array Nat
  threads : List Thread := []

def Frontier.empty (a : Automaton) : Frontier := { visited := Array.replicate (a.size + 1) 0 }

/-- The state has been visited at the position; there are no states beyond the end. -/
def Frontier.hasVisited (f : Frontier) (position state : Nat) : Bool :=
  f.visited.getD state (position + 1) == position + 1

/-- Notes a visit at a position. -/
def Frontier.visit (f : Frontier) (position state : Nat) : Frontier :=
  { f with visited := f.visited.setIfInBounds state (position + 1) }

/-- Follows threads to the states that take a character and to the end of the automaton, the first
one before the others. A step visits a new state or drops a thread, and every visit adds at most two
threads, so `fuel` need not exceed twice the number of states by more than three. -/
def follow (a : Automaton) (text : Array Char) (position : Nat) :
    Nat → List Thread → Frontier → Frontier
  | 0, _, f => f
  | _, [], f => f
  | fuel + 1, t :: rest, f =>
    if f.hasVisited position t.state then follow a text position fuel rest f
    else
      let f := f.visit position t.state
      match a[t.state]? with
      | some (.choice first second) =>
        follow a text position fuel
          ({ t with state := first } :: { t with state := second } :: rest) f
      | some (.jump target) =>
        follow a text position fuel ({ t with state := target } :: rest) f
      | some (.mark slot) =>
        follow a text position fuel
          ({ t with state := t.state + 1, marks := (slot, position) :: t.marks } :: rest) f
      | some (.anchor c) =>
        if c.holds text position then
          follow a text position fuel ({ t with state := t.state + 1 } :: rest) f
        else follow a text position fuel rest f
      | _ => follow a text position fuel rest { f with threads := t :: f.threads }

/-- Follows a thread from a state into a position. -/
def enter (a : Automaton) (text : Array Char) (position : Nat) (t : Thread) (f : Frontier) :
    Frontier :=
  follow a text position (2 * a.size + 3) [t] f

/-- A match: where it starts and stops and what was noted on the way. -/
structure Outcome where
  start : Nat
  stop : Nat
  marks : Marks
deriving DecidableEq, Repr

/-- Lets the threads at a position take the next character, in the order of preference. A thread
that has reached the end of the automaton accepts, and the threads after it are given up. -/
def advance (a : Automaton) (text : Array Char) (position : Nat) :
    List Thread → Frontier → Frontier × Option Outcome
  | [], f => (f, none)
  | t :: rest, f =>
    match a[t.state]? with
    | some (.one set) =>
      if (text[position]?).any set.mem then
        advance a text position rest (enter a text (position + 1) { t with state := t.state + 1 } f)
      else advance a text position rest f
    | _ => (f, some ⟨t.start, position, t.marks⟩)

/-- Goes on from the threads at a position for at most `fuel` positions; `best` is the last match
found. While there is none, a thread starts behind those that have come to the position. -/
def search (a : Automaton) (text : Array Char) :
    Nat → Nat → Frontier → Option Outcome → Option Outcome
  | 0, _, _, best => best
  | fuel + 1, position, f, best =>
    let f := if best.isNone then enter a text position { start := position, state := 0 } f else f
    if best.isSome && f.threads.isEmpty then best
    else
      let (next, accepted) := advance a text position f.threads.reverse { f with threads := [] }
      search a text fuel (position + 1) next (accepted <|> best)

/-- The preferred match that starts first. -/
def Automaton.firstMatch? (a : Automaton) (text : Array Char) : Option Outcome :=
  search a text (text.size + 1) 0 (Frontier.empty a) none

def slice (text : Array Char) (start stop : Nat) : String :=
  String.ofList ((text.toList.drop start).take (stop - start))

/-- What a group matched last; a group that took no part matched the empty text. -/
def Outcome.groupText (o : Outcome) (text : Array Char) (index : Nat) : String :=
  match o.marks.lookup (2 * index), o.marks.lookup (2 * index + 1) with
  | some start, some stop => slice text start stop
  | _, _ => ""

/-- The text of the match, then what each group matched. -/
def Outcome.texts (o : Outcome) (text : Array Char) (groups : Nat) : List String :=
  slice text o.start o.stop :: (List.range groups).map fun i => o.groupText text (i + 1)

end StackVM.Pattern
