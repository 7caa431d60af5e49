import StackVM.Pattern.Node
import StackVM.Pattern.Utf8Sequence

/-! # The room that a pattern takes

A pattern may be repeated often, so its size is bounded. What counts is the room of two automata
over bytes, one that reads forwards and one that reads backwards: a state takes 32 bytes, a byte
range that leaves a state 8 bytes, and an alternative 4 bytes.

Reading forwards, the byte sequences of a set share their beginnings, and their ends as far as a
table of limited size remembers them. Reading backwards, every sequence is an alternative, and a
second table lets sequences share their first bytes. An entry of a table gives way to a later one
with the same hash.
-/

namespace StackVM.Pattern

/-- How many states there are, and how many bytes they take beyond 32 each. -/
structure Footprint where
  states : Nat := 0
  extra : Nat := 0

/-- What happens to the footprint when a part is added. -/
abbrev Growth := Footprint → Footprint

namespace Footprint

def maxBytes : Nat := 10 * 1048576

/-- There is room left. -/
def fits (f : Footprint) : Bool := 32 * f.states + f.extra ≤ maxBytes

def add (n : Nat) : Growth := fun f => { f with states := f.states + n }

/-- Adds a state with two alternatives. -/
def choice : Growth := fun f => ⟨f.states + 1, f.extra + 8⟩

/-- Adds a part so often, as long as there is room. -/
def times (part : Growth) : Nat → Growth
  | 0, f => f
  | n + 1, f => if f.fits then times part n (part f) else f

/-- A hash of numbers. -/
def hash (numbers : List Nat) : UInt64 :=
  numbers.foldl (fun h n => (h ^^^ n.toUInt64) * 1099511628211) 14695981039346656037

/-- The place of a hash in a table. -/
def place (size : Nat) (h : UInt64) : Nat := h.toNat % size

/-- A byte range that leaves a state, and where it leads. -/
structure Arc where
  first : Nat
  last : Nat
  target : Nat
deriving DecidableEq

/-- A state that is still being built: its finished arcs, the latest first, and the bytes of the
last one. -/
structure OpenState where
  arcs : List Arc := []
  last : Option ByteRange := none

/-- An automaton that reads forwards, under construction. -/
structure Forward where
  footprint : Footprint
  /-- The states that have been built, by the hash of their arcs. -/
  table : Array (Option (List Arc × Nat))
  /-- The states that are still being built, the root last. -/
  pending : List OpenState := [{}]

/-- Lets the last arc of a state lead to a target. -/
def OpenState.close (s : OpenState) (target : Nat) : OpenState :=
  match s.last with
  | some r => { arcs := ⟨r.first, r.last, target⟩ :: s.arcs }
  | none => s

/-- The number of a state with the given arcs, which is added unless the table has it. -/
def Forward.build (b : Forward) (arcs : List Arc) : Nat × Forward :=
  let slot := place 10000 (hash (arcs.flatMap fun a => [a.first, a.last, a.target]))
  match (b.table.getD slot none).filter fun entry => entry.1 == arcs with
  | some (_, number) => (number, b)
  | none =>
    let number := b.footprint.states
    (number, { b with
      footprint := ⟨number + 1, b.footprint.extra + 8 * arcs.length⟩
      table := b.table.setIfInBounds slot (some (arcs, number)) })

/-- Builds the innermost pending states until so many are left, and closes the last of those. -/
def Forward.reduce (keep : Nat) (b : Forward) (target : Nat) : List OpenState → Forward
  | [] => b
  | state :: outer =>
    if keep ≤ outer.length && !outer.isEmpty then
      let (number, b) := b.build (state.close target).arcs.reverse
      reduce keep b number outer
    else { b with pending := state.close target :: outer }

/-- How many states from the root on have the given bytes as their last ones. -/
def sharedLength : List ByteRange → List OpenState → Nat
  | r :: rest, s :: states => if s.last == some r then sharedLength rest states + 1 else 0
  | _, _ => 0

/-- Opens states for the rest of a sequence; `target` is where every sequence ends. -/
def Forward.insert (b : Forward) (target : Nat) (sequence : List ByteRange) : Forward :=
  let shared := sharedLength sequence b.pending.reverse
  let b := b.reduce (shared + 1) target b.pending
  match sequence.drop shared, b.pending with
  | r :: rest, top :: outer =>
    { b with
      pending := (rest.map fun r => { last := some r }).reverse ++
        { top with last := some r } :: outer }
  | _, _ => b

/-- Adds the byte sequences of a set to an automaton that reads forwards. -/
def forwardSet (sequences : List (List ByteRange)) : Growth := fun f =>
  let start : Forward := { footprint := add 1 f, table := Array.replicate 10000 none }
  let b := sequences.foldl (fun b s => b.insert f.states s) start
  let b := b.reduce 1 f.states b.pending
  (b.build ((b.pending.headD {}).arcs.reverse)).2.footprint

/-- An automaton that reads backwards, under construction: the table has the states that have been
added, by their target and their bytes. -/
structure Backward where
  footprint : Footprint
  table : Array (Option (Arc × Nat))

def Backward.build (b : Backward) (slot : Nat) (arc : Arc) : Nat × Backward :=
  match (b.table.getD slot none).filter fun entry => entry.1 == arc with
  | some (_, number) => (number, b)
  | none =>
    let number := b.footprint.states
    (number, ⟨add 1 b.footprint, b.table.setIfInBounds slot (some (arc, number))⟩)

/-- The state that reads the given bytes before a target. -/
def Backward.step (b : Backward) (target : Nat) (r : ByteRange) : Nat × Backward :=
  b.build (place 1000 (hash [target, r.first, r.last])) ⟨r.first, r.last, target⟩

def Backward.insert (b : Backward) (target : Nat) (sequence : List ByteRange) : Backward :=
  let b := (sequence.foldl (fun (number, b) r => b.step number r) (target, b)).2
  { b with footprint := { b.footprint with extra := b.footprint.extra + 4 } }

/-- Adds the byte sequences of a set to an automaton that reads backwards. -/
def backwardSet (sequences : List (List ByteRange)) : Growth := fun f =>
  let start : Backward := ⟨add 2 f, Array.replicate 1000 none⟩
  (sequences.foldl (fun b s => b.insert (f.states + 1) s) start).footprint

/-- Adds so many copies; none are still a state. -/
def copies (part : Growth) (n : Nat) : Growth := if n == 0 then add 1 else times part n

def turns (body : Growth) (consumes : Bool) (least : Nat) (most : Option Nat) : Growth := fun f =>
  match least, most with
  | 0, some 1 => add 1 (body (choice f))
  | 0, none => if consumes then body (choice f) else add 1 (choice (choice (body f)))
  | 1, none => choice (body f)
  | n + 1, none => choice (body (times body n f))
  | least, some most =>
    if least == most then copies body least f
    else times (fun f => body (choice f)) (most - least) (add 1 (copies body least f))

end Footprint

/-- A part of a pattern as it is built over bytes. -/
inductive Part where
  /-- Matches the empty text anywhere. -/
  | empty
  /-- Matches the empty text under a condition. -/
  | anchor
  /-- Matches so many bytes, each of which is fixed. -/
  | row (bytes : Nat)
  /-- Matches one byte, which lies in one of so many ranges. -/
  | ranges (count : Nat)
  /-- Matches one of several sequences of bytes. -/
  | sequences (list : List (List ByteRange))
  | seq (items : List Part)
  /-- A group with a number. -/
  | group (body : Part)
  | repeated (body : Part) (least : Nat) (most : Option Nat)

namespace Part

/-- The part that matches one character of a set. -/
def ofSet (set : CharClass) : Part :=
  match set.toRanges with
  | [] => .ranges 0
  | (first, last) :: rest =>
    if rest.isEmpty && first == last then .row (codeBytes first).length
    else if ((first, last) :: rest).all (·.2 < 0x80) then .ranges (rest.length + 1)
    else .sequences (byteSequences ((first, last) :: rest))

/-- Some parts one after the other; what matches the empty text anywhere is left out. -/
def ofList (parts : List Part) : Part :=
  let isEmpty : Part → Bool
    | .empty => true
    | _ => false
  match parts.filter fun part => !isEmpty part with
  | [] => .empty
  | [part] => part
  | parts => .seq parts

/-- A repetition; none at all matches the empty text, and once is the body itself. -/
def ofTurns (body : Part) : Nat × Option Nat → Part
  | (0, some 0) => .empty
  | (1, some 1) => body
  | (least, most) => .repeated body least most

mutual

/-- The part can match, and takes at least one byte. -/
def consumes : Part → Bool
  | .empty | .anchor => false
  | .row bytes => bytes != 0
  | .ranges count => count != 0
  | .sequences _ => true
  | .seq items => matchAll items && consumesAny items
  | .group body => consumes body
  | .repeated body least _ => least != 0 && consumes body

/-- One of the items takes at least one byte. -/
def consumesAny : List Part → Bool
  | [] => false
  | item :: rest => consumes item || consumesAny rest

/-- The part is not made to match nothing. -/
def canMatch : Part → Bool
  | .ranges count => count != 0
  | .seq items => matchAll items
  | .group body | .repeated body _ _ => canMatch body
  | _ => true

/-- None of the items is made to match nothing. -/
def matchAll : List Part → Bool
  | [] => true
  | item :: rest => canMatch item && matchAll rest

end

mutual

/-- How a part adds to an automaton that reads forwards or backwards. Only an automaton that reads
forwards notes where a group starts and stops. -/
def growth (forwards : Bool) : Part → Growth
  | .empty | .anchor => Footprint.add 1
  | .row bytes => Footprint.add bytes
  | .ranges count => fun f => ⟨f.states + 2, f.extra + 8 * count⟩
  | .sequences list =>
    if forwards then Footprint.forwardSet list else Footprint.backwardSet list
  | .seq items => growthAll forwards items
  | .group body => fun f =>
    if forwards then Footprint.add 1 (growth forwards body (Footprint.add 1 f))
    else growth forwards body f
  | .repeated body least most =>
    Footprint.turns (growth forwards body) body.consumes least most

/-- How the items add to an automaton, in the order in which it reads them. -/
def growthAll (forwards : Bool) : List Part → Growth
  | [] => id
  | item :: rest => fun f =>
    if forwards then growthAll forwards rest (growth forwards item f)
    else growth forwards item (growthAll forwards rest f)

end

/-- Both automata have room, with the states at which they start and accept. -/
def fits (part : Part) : Bool :=
  (Footprint.add 2 (part.growth true (Footprint.add 2 {}))).fits &&
    (Footprint.add 1 (part.growth false (Footprint.add 1 {}))).fits

end Part

namespace Node

mutual

def toPart : Node → Part
  | .empty => .empty
  | .one set _ => Part.ofSet set
  | .anchor _ => .anchor
  | .seq items => Part.ofList (toParts items)
  | .group none body => toPart body
  | .group (some _) body => .group (toPart body)
  | .repeated body least most _ => Part.ofTurns (toPart body) (bounds body least most)

def toParts : List Node → List Part
  | [] => []
  | item :: rest => toPart item :: toParts rest

end

def fits (n : Node) : Bool := n.toPart.fits

end Node

end StackVM.Pattern
