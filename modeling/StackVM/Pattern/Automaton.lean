import StackVM.Pattern.Node

/-! # The automaton of a pattern

The states of an automaton are numbered in a row. A state that names no successor goes on to the
state after it, and the place after the last state accepts. A part of a pattern becomes a stretch of
states that is entered at its first state and left at the place after its last one, so parts that
follow each other need no connection. A part is written behind the states that are there already;
how many states it takes is known beforehand.

A repetition enters its body again through a choice. Where the body always takes a character, the
choice stands in front of it and is shared by the first turn and all later ones; where it may match
the empty text, later turns have a choice of their own behind the body.
-/

namespace StackVM.Pattern

inductive State where
  /-- Takes a character of a set. -/
  | one (set : CharClass)
  /-- Goes on where the condition holds. -/
  | anchor (a : Anchor)
  /-- Notes the position in a slot. -/
  | mark (slot : Nat)
  /-- Goes on at either state, preferably at the first. -/
  | choice (first second : Nat)
  /-- Goes on at another state. -/
  | jump (target : Nat)

/-- An automaton starts at its first state and accepts after its last one. -/
abbrev Automaton := Array State

/-- Writes states behind those of an automaton. -/
abbrev Writer := Automaton → Automaton

namespace Writer

/-- A choice between entering and leaving; the first is preferred if it is greedy. -/
def choose (greedy : Bool) (enter leave : Nat) : State :=
  if greedy then .choice enter leave else .choice leave enter

def copies (body : Writer) : Nat → Writer
  | 0, a => a
  | k + 1, a => copies body k (body a)

/-- At most a number of copies, each of which may be left out with all that follow; `stop` is the
place behind the last one. -/
def optional (greedy : Bool) (body : Writer) (stop : Nat) : Nat → Writer
  | 0, a => a
  | k + 1, a => optional greedy body stop k (body (a.push (choose greedy (a.size + 1) stop)))

/-- One turn or more. -/
def plus (greedy : Bool) (body : Writer) : Writer := fun a =>
  let b := body a
  b.push (choose greedy a.size (b.size + 1))

/-- Any number of turns of a body of `size` states that always takes a character. -/
def loop (greedy : Bool) (size : Nat) (body : Writer) : Writer := fun a =>
  (body (a.push (choose greedy (a.size + 1) (a.size + size + 2)))).push (.jump a.size)

/-- Between `least` and `most` turns of a body of `size` states; `consumes` says that the body always
takes a character. -/
def turns (greedy consumes : Bool) (size : Nat) (body : Writer) (least : Nat) (most : Option Nat) :
    Writer := fun a =>
  match least, most with
  | 0, none =>
    if consumes then loop greedy size body a
    else optional greedy (plus greedy body) (a.size + size + 2) 1 a
  | k + 1, none => plus greedy body (copies body k a)
  | least, some most =>
    optional greedy body (a.size + least * size + (most - least) * (size + 1)) (most - least)
      (copies body least a)

end Writer

namespace Node

mutual

/-- Every text that matches has a character. -/
def consumes : Node → Bool
  | .empty => false
  | .one _ _ => true
  | .anchor _ => false
  | .seq items => consumesAny items
  | .group _ body => consumes body
  | .repeated body least _ _ => least != 0 && consumes body

/-- Some item always takes a character. -/
def consumesAny : List Node → Bool
  | [] => false
  | item :: rest => consumes item || consumesAny rest

end

/-- How many states a number of turns takes. -/
def turnsSize (size least : Nat) (most : Option Nat) : Nat :=
  match least, most with
  | 0, none => size + 2
  | k + 1, none => k * size + size + 1
  | least, some most => least * size + (most - least) * (size + 1)

mutual

/-- How many states a part takes. -/
def size : Node → Nat
  | .empty => 0
  | .one _ _ | .anchor _ => 1
  | .seq items => sizeAll items
  | .group none body => size body
  | .group (some _) body => size body + 2
  | .repeated body least most _ =>
    let (least, most) := bounds body least most
    turnsSize (size body) least most

/-- How many states the items take. -/
def sizeAll : List Node → Nat
  | [] => 0
  | item :: rest => size item + sizeAll rest

end

mutual

/-- Writes the states of a part. A group notes where it starts in the slot with twice its number and
where it stops in the slot after that. -/
def write : Node → Writer
  | .empty, a => a
  | .one set _, a => a.push (.one set)
  | .anchor c, a => a.push (.anchor c)
  | .seq items, a => writeAll items a
  | .group none body, a => write body a
  | .group (some index) body, a =>
    (write body (a.push (.mark (2 * index)))).push (.mark (2 * index + 1))
  | .repeated body least most greedy, a =>
    let (least, most) := bounds body least most
    Writer.turns greedy body.consumes (size body) (write body) least most a

/-- Writes the states of the items one after the other. -/
def writeAll : List Node → Writer
  | [], a => a
  | item :: rest, a => writeAll rest (write item a)

end

def automaton (n : Node) : Automaton := n.write #[]

end Node

end StackVM.Pattern
