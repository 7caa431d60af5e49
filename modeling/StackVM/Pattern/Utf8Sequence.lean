import StackVM.Text.Range

/-! # Byte sequences of a set of characters

A range of characters is cut into pieces for whose UTF-8 bytes every position has a range of its
own, independently of the other positions.
-/

namespace StackVM.Pattern

structure ByteRange where
  first : Nat
  last : Nat
deriving DecidableEq, Repr

def codeBytes (n : Nat) : List Nat :=
  if n < 0x80 then [n]
  else if n < 0x800 then [0xc0 + n / 0x40, 0x80 + n % 0x40]
  else if n < 0x10000 then [0xe0 + n / 0x1000, 0x80 + n / 0x40 % 0x40, 0x80 + n % 0x40]
  else
    [0xf0 + n / 0x40000, 0x80 + n / 0x1000 % 0x40, 0x80 + n / 0x40 % 0x40, 0x80 + n % 0x40]

/-- The first part of a range that has to be cut, and the rest. Ranges are cut where the surrogates
are, where the number of bytes changes, and where a position would depend on the one before it. -/
def cut? (first last : Nat) : Option ((Nat × Nat) × (Nat × Nat)) :=
  if first < 0xe000 && 0xd7ff < last then some ((first, 0xd7ff), (0xe000, last))
  else
    match [0x7f, 0x7ff, 0xffff].find? fun most => first ≤ most && most < last with
    | some most => some ((first, most), (most + 1, last))
    | none =>
      if last < 0x80 then none
      else [0x40, 0x1000, 0x40000].findSome? fun unit =>
        if first / unit == last / unit then none
        else if first % unit != 0 then
          some ((first, first / unit * unit + (unit - 1)), (first / unit * unit + unit, last))
        else if last % unit != unit - 1 then
          some ((first, last / unit * unit - 1), (last / unit * unit, last))
        else none

/-- Cuts ranges until they need not be cut any more. Every cut leaves a part that is cut at most so
often again, so `fuel` bounds the number of steps. -/
def cutAll : Nat → List (Nat × Nat) → List (List ByteRange)
  | 0, _ => []
  | _, [] => []
  | fuel + 1, (first, last) :: rest =>
    if last < first then cutAll fuel rest
    else match cut? first last with
      | some (a, b) => cutAll fuel (a :: b :: rest)
      | none => (codeBytes first).zipWith ByteRange.mk (codeBytes last) :: cutAll fuel rest

/-- The byte sequences of a set of characters in ascending order. -/
def byteSequences (set : Text.Ranges) : List (List ByteRange) := cutAll (40 * set.length + 40) set

end StackVM.Pattern
