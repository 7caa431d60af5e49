/-! # Base 64

Three bytes are written as four symbols. The last group is filled up with `=`. Reading accepts
exactly what writing produces: padding is required and the unused bits of the last symbol are zero.
-/

namespace StackVM.Base64

/-- The symbol of a six-bit number. -/
def symbol (n : Nat) : Char :=
  if n < 26 then Char.ofNat ('A'.toNat + n)
  else if n < 52 then Char.ofNat ('a'.toNat + (n - 26))
  else if n < 62 then Char.ofNat ('0'.toNat + (n - 52))
  else if n = 62 then '+'
  else '/'

/-- The number of a symbol. -/
def value? (b : UInt8) : Option Nat :=
  let n := b.toNat
  if 65 ≤ n && n ≤ 90 then some (n - 65)
  else if 97 ≤ n && n ≤ 122 then some (n - 97 + 26)
  else if 48 ≤ n && n ≤ 57 then some (n - 48 + 52)
  else if n == 43 then some 62
  else if n == 47 then some 63
  else none

def pad : UInt8 := 61

def encode : List UInt8 → List Char
  | [] => []
  | [a] => [symbol (a.toNat / 4), symbol (a.toNat % 4 * 16), '=', '=']
  | [a, b] =>
    [symbol (a.toNat / 4), symbol (a.toNat % 4 * 16 + b.toNat / 16), symbol (b.toNat % 16 * 4), '=']
  | a :: b :: c :: rest =>
    symbol (a.toNat / 4) :: symbol (a.toNat % 4 * 16 + b.toNat / 16) ::
      symbol (b.toNat % 16 * 4 + c.toNat / 64) :: symbol (c.toNat % 64) :: encode rest

/-- Why a text is not in base 64. -/
inductive Error where
  | invalidSymbol (byte : UInt8) (offset : Nat)
  | invalidLength (length : Nat)
  | invalidPadding
  | invalidLastSymbol (byte : UInt8) (offset : Nat)
deriving DecidableEq, Repr

def Error.message : Error → String
  | .invalidSymbol byte offset => s!"Invalid symbol {byte.toNat}, offset {offset}."
  | .invalidLength length => s!"Invalid input length: {length}"
  | .invalidPadding => "Invalid padding"
  | .invalidLastSymbol byte offset => s!"Invalid last symbol {byte.toNat}, offset {offset}."

/-- The symbols of the last group with their numbers, and how many padding bytes follow them. -/
structure LastGroup where
  symbols : List (UInt8 × Nat) := []
  pads : Nat := 0

/-- Reads the last group, which starts at `offset`. -/
def readLast (offset : Nat) (group : LastGroup) : List UInt8 → Except Error LastGroup
  | [] => .ok group
  | b :: rest =>
    let place := group.symbols.length + group.pads
    if b = pad then
      if place < 2 then .error (.invalidSymbol b (offset + place))
      else readLast offset { group with pads := group.pads + 1 } rest
    else if group.pads ≠ 0 then .error (.invalidSymbol pad (offset + group.symbols.length))
    else match value? b with
      | none => .error (.invalidSymbol b (offset + place))
      | some n => readLast offset { group with symbols := group.symbols ++ [(b, n)] } rest

/-- The bytes of two to four six-bit numbers. -/
def unpack : List Nat → List UInt8
  | [a, b] => [(a * 4 + b / 16).toUInt8]
  | [a, b, c] => [(a * 4 + b / 16).toUInt8, (b % 16 * 16 + c / 4).toUInt8]
  | [a, b, c, d] =>
    [(a * 4 + b / 16).toUInt8, (b % 16 * 16 + c / 4).toUInt8, (c % 4 * 64 + d).toUInt8]
  | _ => []

/-- The bits of the last symbol that no byte uses. -/
def unusedBits : List Nat → Nat
  | [_, b] => b % 16
  | [_, _, c] => c % 4
  | _ => 0

/-- Decodes the last group, which starts at `offset`. -/
def decodeLast (offset : Nat) (bytes : List UInt8) : Except Error (List UInt8) := do
  let group ← readLast offset {} bytes
  let numbers := group.symbols.map (·.2)
  if numbers.length < 2 then .error (.invalidLength (offset + numbers.length))
  else if (numbers.length + group.pads) % 4 ≠ 0 then .error .invalidPadding
  else if unusedBits numbers ≠ 0 then
    .error
      (.invalidLastSymbol ((group.symbols.getLast?.map (·.1)).getD 0) (offset + numbers.length - 1))
  else .ok (unpack numbers)

/-- The number of a symbol that stands at `offset`. -/
def decodeSymbol (offset : Nat) (b : UInt8) : Except Error Nat :=
  match value? b with
  | some n => .ok n
  | none => .error (.invalidSymbol b offset)

/-- Decodes groups of four symbols, the last group apart. -/
def decodeGroups (offset : Nat) : List UInt8 → Except Error (List UInt8)
  | [] => .ok []
  | a :: b :: c :: d :: e :: rest => do
    let w ← decodeSymbol offset a
    let x ← decodeSymbol (offset + 1) b
    let y ← decodeSymbol (offset + 2) c
    let z ← decodeSymbol (offset + 3) d
    let more ← decodeGroups (offset + 4) (e :: rest)
    return unpack [w, x, y, z] ++ more
  | last => decodeLast offset last

/-- Decodes a text. A single byte after the last full group that can stand in no group is
reported first. -/
def decode (text : List UInt8) : Except Error (List UInt8) :=
  let stray := text.getLast?.filter fun b => text.length % 4 == 1 && b != pad && (value? b).isNone
  match stray with
  | some b => .error (.invalidSymbol b (text.length - 1))
  | none => decodeGroups 0 text

end StackVM.Base64
