import StackVM.Number.Text
import StackVM.Text.Blank

/-! # Numbers in other bases

Integers and fractions in any base from two to thirty-six, hexadecimal notation of 64-bit integers,
and integers as bytes.
-/

namespace StackVM.Radix

/-- The digit of a number below thirty-six. -/
def digitChar (n : Nat) : Char :=
  if n < 10 then Char.ofNat ('0'.toNat + n) else Char.ofNat ('a'.toNat + (n - 10))

/-- The value of a digit in either letter case. -/
def digitValue? (c : Char) : Option Nat :=
  if c.isDigit then some (c.toNat - '0'.toNat)
  else if 'a' ≤ c && c ≤ 'z' then some (c.toNat - 'a'.toNat + 10)
  else if 'A' ≤ c && c ≤ 'Z' then some (c.toNat - 'A'.toNat + 10)
  else none

/-- The digits of a natural number in front of `tail`; `fuel` bounds their number. -/
def digitsBefore (base : Nat) : Nat → Nat → List Char → List Char
  | 0, _, tail => tail
  | fuel + 1, n, tail =>
    let tail := digitChar (n % base) :: tail
    if n / base = 0 then tail else digitsBefore base fuel (n / base) tail

/-- The digits of a 64-bit natural number. -/
def natDigits (base n : Nat) : List Char := digitsBefore base 64 n []

/-- Fractions below this count as zero. -/
def epsilon : Float := 1e-7

/-- The digits of a fraction, at most `count` of them. -/
def fractionDigits (base : Float) : Nat → Float → List Char
  | 0, _ => []
  | count + 1, x =>
    let scaled := x * base
    let digit := digitChar (Number.toNat (Number.floor scaled) % 36)
    let rest := Number.fract scaled
    digit :: if rest < epsilon then [] else fractionDigits base count rest

/-- The greatest number of fraction digits. -/
def maxFractionDigits : Nat := 10

/-- A number in a base other than ten. -/
def text (base : Nat) (x : Float) : List Char :=
  let magnitude := Number.abs x
  let whole := natDigits base (Number.toNat (Number.trunc magnitude))
  let fraction := Number.fract magnitude
  let body := if epsilon < fraction then
      whole ++ '.' :: fractionDigits (Number.ofNat base) maxFractionDigits fraction
    else whole
  if x < 0 then '-' :: body else body

/-- Fills a text up with zeros on the left. -/
def zeroPad (width : Nat) (text : List Char) : List Char :=
  List.replicate (width - text.length) '0' ++ text

/-- The value of a character as a digit; anything else counts as zero. -/
def digitNumber (c : Char) : Float := Number.ofNat ((digitValue? c).getD 0)

/-- The value of the digits before the point. -/
def wholeValue (base : Float) (digits : List Char) : Float :=
  digits.foldl (fun value c => value * base + digitNumber c) 0.0

/-- The value of the digits behind the point, the first one counting `1 / place`. -/
def fractionValue (base : Float) : Float → Float → List Char → Float
  | total, _, [] => total
  | total, place, c :: rest =>
    fractionValue base (total + digitNumber c / place) (place * base) rest

def read (base : Nat) (text : String) : Float :=
  let cs := (Text.trim text).toList
  let (negative, body) := match cs with
    | '-' :: rest => (true, rest)
    | rest => (false, rest)
  let b := Number.ofNat base
  let whole := body.takeWhile (· != '.')
  let fraction := (body.dropWhile (· != '.')).drop 1
  Number.signed negative (wholeValue b whole + fractionValue b 0.0 b fraction)

/-- The two's complement of a signed 64-bit integer as a natural number. -/
def twosComplement (n : Int) : Nat := (n % 0x10000000000000000).toNat

/-- A signed 64-bit integer in hexadecimal notation. -/
def hex (n : Int) (width : Nat) : String :=
  String.ofList (zeroPad width (Nat.toDigits 16 (twosComplement n)))

/-- The `count` low bytes of an integer, most significant first. -/
def bytes (n : Int) (count : Nat) : List Int :=
  (List.range count).reverse.map fun i => n.shiftRight (8 * i) % 256

/-- A signed 64-bit integer with wrap-around. -/
def wrap (n : Int) : Int := Int.bmod n 0x10000000000000000

/-- The integer of its bytes, most significant first. Numbers outside a byte count modulo 256 with
their sign. -/
def ofBytes (items : List Int) : Int :=
  items.foldl (fun value b => wrap (wrap (value * 256) + Int.tmod b 256)) 0

end StackVM.Radix
