import StackVM.Number.Shortest

/-! # The two ways a number is written

`text` is the form every value shows: integers without a point, all other finite numbers in
positional notation with the fewest digits that read back. `jsonText` is the form of a JSON
document: always with a fraction or an exponent, exponents outside `-5 .. 15` in scientific
notation.
-/

namespace StackVM.Number

def decimalDigits (n : Nat) : List Char := Nat.toDigits 10 n

def integerText (n : Int) : String :=
  if n < 0 then String.ofList ('-' :: decimalDigits n.natAbs)
  else String.ofList (decimalDigits n.natAbs)

/-- Integer part and fraction of a decimal in positional notation. -/
def Decimal.positional (d : Decimal) : List Char × List Char :=
  let ds := decimalDigits d.digits
  if 0 ≤ d.exponent then (ds ++ List.replicate d.exponent.toNat '0', [])
  else
    let places := (-d.exponent).toNat
    if places < ds.length then (ds.take (ds.length - places), ds.drop (ds.length - places))
    else (['0'], List.replicate (places - ds.length) '0' ++ ds)

def signText (negative : Bool) : List Char := if negative then ['-'] else []

/-- Positional notation of a finite number with the fewest digits that read back. -/
def positionalText (x : Float) : String :=
  let p := parts x
  let (whole, fraction) := (shortest .up p).positional
  String.ofList (signText p.negative ++ whole ++ if fraction.isEmpty then [] else '.' :: fraction)

/-- Integers from this magnitude on are written digit by digit from their shortest form. -/
def exactLimit : Nat := 1000000000000000

/-- A number is written as an integer when it is one and stays below `exactLimit`. -/
def isPlainInteger (x : Float) : Bool := isInteger x && (parts x).whole < exactLimit

def text (x : Float) : String :=
  if isNaN x then "nan"
  else if !isFinite x then (if isNegative x then "-inf" else "inf")
  else if isPlainInteger x then integerText (parts x).truncated
  else positionalText x

/-- A finite number as a JSON document writes a fraction. -/
def jsonText (x : Float) : String :=
  let p := parts x
  let d := shortest .even p
  let ds := decimalDigits d.digits
  let leading : Int := d.exponent + ds.length - 1
  let body : List Char :=
    if d.digits != 0 && (leading < -5 || 15 < leading) then
      let fraction := ds.drop 1
      ds.take 1 ++ (if fraction.isEmpty then [] else '.' :: fraction) ++
        ['e', if leading < 0 then '-' else '+'] ++ decimalDigits leading.natAbs
    else
      let (whole, fraction) := d.positional
      whole ++ '.' :: if fraction.isEmpty then ['0'] else fraction
  String.ofList (signText p.negative ++ body)

end StackVM.Number
