import StackVM.Builtin.Params
import StackVM.Sequence.Arrangement
import StackVM.Sequence.Membership
import StackVM.Sequence.Position
import StackVM.Text.Search
import StackVM.Value.Order

/-! # Builtins on lists and records -/

namespace StackVM

inductive ListFunction where
  | append
  | merge
  | index
  | reverse
  | sort
  | sorted
  | update
  | insert
  | delete
  | object
  | array
  | keys
  | values
  | pairs
  | interleave
  | unique
  | count
  | find
  | flatten
  | splice
  | chunk
deriving DecidableEq, Repr

namespace Lists

/-- Changes a list at a position below `limit`; a position that does not exist leaves it as it is.
-/
def changeAt (action : String) (position : Int) (items : List Value) (limit : Nat)
    (change : Nat → List Value) : Reply :=
  if position = 0 then
    .warn ("Array indexes start at 1, not 0. " ++ action ++ "() will have no effect.") (.arr items)
  else match (Sequence.index? position items.length).filter (· < limit) with
    | some i => Value.arr (change i)
    | none =>
      .warn ("Array index out of bounds. " ++ action ++ "() will have no effect.") (.arr items)

/-- Puts a value in place of the item at a position. -/
def update (items : List Value) (position : Int) (v : Value) : Reply :=
  changeAt "update" position items items.length fun i => items.set i v

/-- Inserts a value before a position; one behind the end appends it. -/
def insert (items : List Value) (position : Int) (v : Value) : Reply :=
  changeAt "insert" position items (items.length + 1) fun i => items.insertIdx i v

def delete (items : List Value) (position : Int) : Reply :=
  changeAt "delete" position items items.length fun i => items.eraseIdx i

/-- Replaces the stretch between two positions. -/
def splice (items : List Value) (start stop : Int) (replacement : List Value) : Reply :=
  let value := Value.arr (Sequence.splice items start stop replacement)
  if start = 0 || stop = 0 then .warn "Array indexes start at 1, not 0." value else value

/-- The position of an index; zero if there is none. -/
def positionOf : Option Nat → Value
  | some i => Value.ofNat (i + 1)
  | none => Value.ofNat 0

/-- The position of the first occurrence of an item or a text. -/
def index (data needle : Value) : Value :=
  positionOf <| match data with
    | .arr items => items.findIdx? (· == needle)
    | other => Text.indexOf? other.text.toList needle.text.toList

/-- The position of the `nth` occurrence, the first one being number one. -/
def find (data needle : Value) (nth : Int) : Value :=
  let nth := (max nth 1).toNat - 1
  positionOf <| match data with
    | .arr items => (Sequence.indexesOf items needle)[nth]?
    | other => (Text.occurrences other.text.toList needle.text.toList)[nth]?

/-- The number of occurrences in an array or a text. -/
def count (data needle : Value) : Reply :=
  match data with
  | .arr items => Value.ofNat (items.countP (· == needle))
  | .str s => Value.ofNat (Text.occurrences s.toList needle.text.toList).length
  | _ => .warn "Count requires an array or a string and a value. Result may be unexpected."
      (Value.ofNat 0)

/-- A text or a list backwards. -/
def reverse : Value → Value
  | .str s => .str (String.ofList s.toList.reverse)
  | other => .arr other.toList.reverse

def sorted : Value → Bool
  | .arr items => Value.isSorted items
  | _ => false

/-- Names and values in turn; a name at the end has the value null. -/
def couples (items : List Value) : List (String × Value) :=
  (Sequence.pairUp items).map fun (k, v) => (k.text, v.getD .null)

def object : Value → Record Value
  | .arr items => Record.ofList (couples items)
  | _ => []

/-- Names and values of a record in turn. -/
def array : Value → List Value
  | .obj fields => Value.unfold fields
  | _ => []

/-- The positions of an array or the names of a record. -/
def keys : Value → List Value
  | .arr items => (List.range items.length).map fun i => Value.ofNat (i + 1)
  | .obj fields => (Record.names fields).map .str
  | _ => []

/-- The items of an array or the values of a record. -/
def values : Value → List Value
  | .arr items => items
  | .obj fields => Record.values fields
  | _ => []

/-- Keys together with their values. -/
def pairs (v : Value) : List Value := List.zipWith (fun k v => .arr [k, v]) (keys v) (values v)

/-- Whichever operand is an array, the first one preferred. -/
def eitherArray : Value → Value → Value
  | .arr items, _ => .arr items
  | _, .arr items => .arr items
  | _, _ => .arr []

/-- The items of two arrays in turn. -/
def interleave : Value → Value → Reply
  | .arr a, .arr b => Value.arr (Sequence.interleave a b)
  | a, b => .warn "Interleave requires two arrays. Result may be unexpected." (eitherArray a b)

/-- Groups of items of an array. -/
def chunk (data : Value) (size : Int) : Reply :=
  match data with
  | .arr items =>
    Value.arr (if size < 1 then [] else (Sequence.chunks size.toNat items).map .arr)
  | _ => .warn "chunk() first argument is not an array! Coercing to an empty array." (.arr [])

end Lists

def ListFunction.apply (f : ListFunction) (p : Params) : Reply :=
  match f with
  | .append | .merge => Value.arr (p.list 0 ++ p.list 1)
  | .index => Lists.index (p.get 0) (p.get 1)
  | .reverse => Lists.reverse (p.get 0)
  | .sort => Value.arr (Value.sort (p.list 0))
  | .sorted => Value.bool (Lists.sorted (p.get 0))
  | .update => Lists.update (p.list 0) (p.int 1) (p.get 2)
  | .insert => Lists.insert (p.list 0) (p.int 1) (p.get 2)
  | .delete => Lists.delete (p.list 0) (p.int 1)
  | .object => Value.obj (Lists.object (p.get 0))
  | .array => Value.arr (Lists.array (p.get 0))
  | .keys => Value.arr (Lists.keys (p.get 0))
  | .values => Value.arr (Lists.values (p.get 0))
  | .pairs => Value.arr (Lists.pairs (p.get 0))
  | .interleave => Lists.interleave (p.get 0) (p.get 1)
  | .unique => Value.arr (Sequence.unique (p.list 0))
  | .count => Lists.count (p.get 0) (p.get 1)
  | .find => Lists.find (p.get 0) (p.get 1) (p.int 2)
  | .flatten => Value.arr (p.get 0).flatten
  | .splice => Lists.splice (p.list 0) (p.int 1) (p.int 2) (p.list 3)
  | .chunk => Lists.chunk (p.get 0) (p.int 1)

end StackVM
