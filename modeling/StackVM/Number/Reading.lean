import StackVM.Number.Double

/-! # Reading a decimal numeral

A numeral is an optional sign followed by `inf`, `infinity` or `nan` in any letter case, or by
decimal digits with at most one point among them and an optional exponent. The value is the nearest
number; a magnitude beyond the greatest finite one is infinite.
-/

namespace StackVM.Number

/-- The value of a list of digits continued from `start`. -/
def digitsValue (start : Nat) (digits : List Char) : Nat :=
  digits.foldl (fun value c => 10 * value + (c.toNat - '0'.toNat)) start

/-- Splits off the leading decimal digits. -/
def spanDigits (cs : List Char) : List Char × List Char :=
  (cs.takeWhile Char.isDigit, cs.dropWhile Char.isDigit)

/-- Reads a natural number that is written in nothing but decimal digits. -/
def readDigits? (cs : List Char) : Option Nat :=
  if cs.isEmpty || !cs.all Char.isDigit then none else some (digitsValue 0 cs)

/-- The number nearest to `significand · 10 ^ exponent`. Magnitudes far outside the range of
finite numbers are decided without computing the power. -/
def nearestDecimal (significand : Nat) (exponent : Int) : Float :=
  let size : Int := exponent + (Nat.toDigits 10 significand).length
  if significand == 0 then 0.0
  else if 310 < size then infinity
  else if size < -330 then 0.0
  else if exponent < 0 then Float.ofScientific significand true exponent.natAbs
  else Float.ofScientific significand false exponent.natAbs

/-- Reads the exponent part of a numeral, or nothing when there is none. -/
def readExponent : List Char → Option Int
  | [] => some 0
  | mark :: rest =>
    if mark == 'e' || mark == 'E' then
      let (negative, digits) := match rest with
        | '-' :: ds => (true, ds)
        | '+' :: ds => (false, ds)
        | ds => (false, ds)
      if digits.isEmpty || !digits.all Char.isDigit then none
      else
        let value : Int := digitsValue 0 digits
        some (if negative then -value else value)
    else none

def readMagnitude (cs : List Char) : Option Float :=
  let (whole, rest) := spanDigits cs
  let (fraction, rest) := match rest with
    | '.' :: tail => spanDigits tail
    | other => ([], other)
  if whole.isEmpty && fraction.isEmpty then none
  else (readExponent rest).map fun e =>
    nearestDecimal (digitsValue (digitsValue 0 whole) fraction) (e - fraction.length)

/-- Reads an unsigned numeral, named values included. -/
def readUnsigned (cs : List Char) : Option Float :=
  let name := String.ofList (cs.map Char.toLower)
  if name == "inf" || name == "infinity" then some infinity
  else if name == "nan" then some nan
  else readMagnitude cs

/-- Reads a numeral; the sign before a NaN counts. -/
def read? (text : String) : Option Double :=
  match text.toList with
  | '-' :: rest => (readUnsigned rest).map fun x => -Double.float x
  | '+' :: rest => (readUnsigned rest).map Double.float
  | cs => (readUnsigned cs).map Double.float

end StackVM.Number
