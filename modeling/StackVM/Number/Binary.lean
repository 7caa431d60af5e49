/-! # Numbers as signed multiples of powers of two

The machine's numbers are double-precision floats. A finite one is `± significand · 2 ^ exponent`;
`Parts` reads these three off its bits, and everything that depends on the exact value (truncation,
rounding to integers, remainder, conversion to machine integers) is computed from them in integer
arithmetic.
-/

namespace StackVM.Number

/-- Sign, significand and binary exponent of a finite number. -/
structure Parts where
  negative : Bool
  significand : Nat
  exponent : Int
deriving DecidableEq, Repr

/-- The exponent field of a number's bits: 2047 marks infinities and NaN, 0 marks subnormals. -/
def exponentField (x : Float) : Nat := x.toBits.toNat / 0x10000000000000 % 2048

def isNegative (x : Float) : Bool := x.toBits.toNat / 0x8000000000000000 == 1

def isFinite (x : Float) : Bool := exponentField x != 2047

/-- NaN: the exponent field is full and the fraction is not empty. -/
def isNaN (x : Float) : Bool := exponentField x == 2047 && x.toBits.toNat % 0x10000000000000 != 0

def parts (x : Float) : Parts :=
  let fraction := x.toBits.toNat % 0x10000000000000
  match exponentField x with
  | 0 => ⟨isNegative x, fraction, -1074⟩
  | field + 1 => ⟨isNegative x, 0x10000000000000 + fraction, (field : Int) - 1074⟩

namespace Parts

def whole (p : Parts) : Nat :=
  if p.exponent < 0 then p.significand >>> (-p.exponent).toNat
  else p.significand <<< p.exponent.toNat

def isWhole (p : Parts) : Bool :=
  0 ≤ p.exponent || p.significand % (1 <<< (-p.exponent).toNat) == 0

/-- The magnitude rounded to the nearest integer, a half going up. -/
def nearest (p : Parts) : Nat :=
  if p.exponent < 0 then
    (2 * p.significand + 1 <<< (-p.exponent).toNat) >>> ((-p.exponent).toNat + 1)
  else p.significand <<< p.exponent.toNat

/-- The integer part with its sign. -/
def truncated (p : Parts) : Int := if p.negative then -(p.whole : Int) else p.whole

end Parts

def infinity : Float := 1.0 / 0.0

def nan : Float := 0.0 / 0.0

/-- A magnitude with a sign; zero keeps its sign too. -/
def signed (negative : Bool) (x : Float) : Float := if negative then -x else x

/-- The number nearest to an integer, ties to even. -/
def ofInt (n : Int) : Float := Float.ofInt n

/-- The number nearest to a natural number, ties to even. -/
def ofNat (n : Nat) : Float := Float.ofNat n

def isInteger (x : Float) : Bool := isFinite x && (parts x).isWhole

/-- Rounds toward zero, keeping the sign of a zero result. -/
def trunc (x : Float) : Float :=
  let p := parts x
  if !isFinite x || p.isWhole then x else signed p.negative (ofNat p.whole)

/-- Rounds toward negative infinity. -/
def floor (x : Float) : Float :=
  let p := parts x
  if !isFinite x || p.isWhole then x
  else signed p.negative (ofNat (if p.negative then p.whole + 1 else p.whole))

/-- Rounds toward positive infinity. -/
def ceil (x : Float) : Float :=
  let p := parts x
  if !isFinite x || p.isWhole then x
  else signed p.negative (ofNat (if p.negative then p.whole else p.whole + 1))

/-- Rounds to the nearest integer, halves away from zero. -/
def round (x : Float) : Float :=
  let p := parts x
  if !isFinite x || p.isWhole then x else signed p.negative (ofNat p.nearest)

/-- What truncation leaves over; NaN for an infinity. -/
def fract (x : Float) : Float := x - trunc x

def abs (x : Float) : Float := signed (isNegative x) x

/-- Truncates into the closed range `lo .. hi`; numbers beyond it go to its ends, NaN to zero. -/
def clampToInt (lo hi : Int) (x : Float) : Int :=
  if isNaN x then 0
  else if !isFinite x then (if isNegative x then lo else hi)
  else max lo (min hi (parts x).truncated)

def minInt64 : Int := -0x8000000000000000

def maxInt64 : Int := 0x7fffffffffffffff

/-- Truncation to a signed 64-bit integer. -/
def toInt (x : Float) : Int := clampToInt minInt64 maxInt64 x

/-- Truncation to a natural number of at most 64 bits. -/
def toNat (x : Float) : Nat := (clampToInt 0 0xffffffffffffffff x).toNat

/-- The power of two with the given exponent, for exponents from -1074 to 1023. -/
def pow2 (e : Int) : Float :=
  if -1022 ≤ e then Float.ofBits ((e + 1023).toNat * 0x10000000000000).toUInt64
  else Float.ofBits (1 <<< (e + 1074).toNat).toUInt64

/-- The remainder of the division truncated toward zero; it is exact and has the dividend's sign. -/
def rem (x y : Float) : Float :=
  if isNaN x || isNaN y || !isFinite x || y == 0 then nan
  else if !isFinite y then x
  else
    let p := parts x
    let q := parts y
    let e := min p.exponent q.exponent
    let r := (p.significand <<< (p.exponent - e).toNat) % (q.significand <<< (q.exponent - e).toNat)
    signed p.negative (ofNat r * pow2 e)

/-- Numeric comparison: the zeros are equal and NaN is comparable with nothing. -/
def compare? (x y : Float) : Option Ordering :=
  if x < y then some .lt else if y < x then some .gt else if x == y then some .eq else none

end StackVM.Number
