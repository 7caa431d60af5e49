import StackVM.Sequence.Position
import StackVM.Value.Basic

/-! # Places inside a value

A path is a list of steps: positions in arrays and texts, names in records. A value resolves it to a
cursor, which tells the slot to take in every container on the way. Along a cursor a value is rebuilt
with another value at its end.
-/

namespace StackVM.Value

/-- Why a path leads nowhere. -/
inductive Miss where
  /-- A position was zero. -/
  | zeroIndex
  /-- A step of the path leads nowhere. -/
  | unresolved
deriving DecidableEq, Repr

/-- The index that a step of a path denotes in a list of the given length. -/
def stepIndex (step : Value) (length : Nat) : Except Miss Nat :=
  if step.toInt = 0 then .error .zeroIndex
  else match Sequence.index? step.toInt length with
    | some i => .ok i
    | none => .error .unresolved

/-- A slot of a container. -/
inductive Slot where
  /-- An item of an array, by its index. -/
  | item (index : Nat)
  /-- Behind the last item of an array. -/
  | behind
  /-- A field of a record. -/
  | field (name : String)
  /-- A character of a text, by its index. -/
  | char (index : Nat)
deriving DecidableEq, Repr

/-- The slots to take, from the outermost container to the innermost. -/
abbrev Cursor := List Slot

/-- The cursor of a path through arrays, records and, as its last step, a text. Only the last step
may lead behind the end of an array or to a field that does not exist. -/
def resolve : Value → List Value → Except Miss Cursor
  | _, [] => .ok []
  | .arr items, step :: rest => do
    let i ← step.stepIndex items.length
    match items[i]? with
    | some item => return .item i :: (← item.resolve rest)
    | none => if rest.isEmpty && i = items.length then return [.behind] else .error .unresolved
  | .obj fields, step :: rest => do
    let name := step.text
    match rest, Record.get? fields name with
    | [], _ => return [.field name]
    | _, some item => return .field name :: (← item.resolve rest)
    | _, none => .error .unresolved
  | .str s, [step] => do
    let i ← step.stepIndex s.length
    if i < s.length then return [.char i] else .error .unresolved
  | _, _ => .error .unresolved

/-- Puts the first character of a text at an index; the empty text changes nothing. -/
def setChar (cs : List Char) (i : Nat) (replacement : String) : List Char :=
  match replacement.toList with
  | c :: _ => cs.set i c
  | [] => cs

/-- The value with another one at the end of a cursor. A slot that the container does not have
leaves the container as it is. -/
def rebuild : Value → Cursor → Value → Value
  | _, [], new => new
  | .arr items, .item i :: rest, new =>
    match items[i]? with
    | some item => .arr (items.set i (item.rebuild rest new))
    | none => .arr items
  | .arr items, .behind :: _, new => .arr (items ++ [new])
  | .obj fields, .field name :: rest, new =>
    let item := (Record.get? fields name).getD .null
    .obj (Record.insert fields name (item.rebuild rest new))
  | .str s, .char i :: _, new => .str (String.ofList (setChar s.toList i new.text))
  | node, _, _ => node

end StackVM.Value
