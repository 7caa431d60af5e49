import StackVM.Builtin.Params
import StackVM.Encoding.Sha256
import StackVM.Random

/-! # Builtins that draw random numbers -/

namespace StackVM

inductive Draw where
  | int
  | float
  | element
  | elements
  | weighted
  | uuid
deriving DecidableEq, Repr

namespace Draws

/-- The item whose share of the weights holds the drawn number; the last item if none does. -/
def pickWeighted (r : Float) (last : Value) : Float → List (Value × Float) → Value
  | _, [] => last
  | total, (item, weight) :: rest =>
    let total := total + weight
    if r < total then item else pickWeighted r last total rest

/-- Sixteen bytes marked as a random identifier. -/
def markIdentifier (bytes : List UInt8) : List UInt8 :=
  bytes.zipIdx.map fun (b, i) =>
    if i = 6 then (b &&& 0x0f) ||| 0x40 else if i = 8 then (b &&& 0x3f) ||| 0x80 else b

/-- The identifier of sixteen bytes, in five groups. -/
def identifierText (bytes : List UInt8) : String :=
  let digits := fun first count => ((bytes.drop first).take count).flatMap Sha256.hexByte
  String.ofList (digits 0 4 ++ '-' :: digits 4 2 ++ '-' :: digits 6 2 ++ '-' :: digits 8 2 ++
    '-' :: digits 10 6)

/-- Draws an integer between two others, whichever is the smaller. -/
def integer (a b : Int64) (r : Random) : Value × Random :=
  let drawn := if a ≤ b then r.between a b else r.between b a
  (.ofInt drawn.1.toInt, drawn.2)

/-- Draws an item; null from an empty list. -/
def element (items : List Value) (r : Random) : Value × Random :=
  if items.isEmpty then (.null, r)
  else
    let drawn := r.below items.length.toUInt64
    (items.getD drawn.1.toNat .null, drawn.2)

/-- Draws several items without putting them back; null from an empty list. -/
def elements (items : List Value) (count : Float) (r : Random) : Value × Random :=
  if items.isEmpty then (.null, r)
  else
    let drawn := r.take (min (Number.toNat count) items.length) items
    (.arr drawn.1, drawn.2)

/-- Draws an item by weight; null from an empty list. -/
def weighted (items : List Value) (weights : List Float) (r : Random) : Value × Random :=
  match items.getLast? with
  | none => (.null, r)
  | some last =>
    let (x, r) := r.fraction
    (pickWeighted (x * weights.foldl (· + ·) (-0.0)) last 0.0 (items.zip weights), r)

end Draws

/-- The drawn value and the generator afterwards. -/
def Draw.apply (d : Draw) (p : Params) (r : Random) : Value × Random :=
  match d with
  | .int => Draws.integer (.ofInt (p.int 0)) (.ofInt (p.int 1)) r
  | .float =>
    let (x, r) := r.fraction
    (.num (p.double 0 + x * (p.double 1 - p.double 0)), r)
  | .element => Draws.element (p.list 0) r
  | .elements => Draws.elements (p.list 0) (p.num 1) r
  | .weighted => Draws.weighted (p.list 0) ((p.list 1).map Value.toNumber) r
  | .uuid =>
    let (bytes, r) := r.bytes 16
    (.str (Draws.identifierText (Draws.markIdentifier bytes)), r)

end StackVM
