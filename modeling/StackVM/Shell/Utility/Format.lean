import StackVM.Number.Reading
import StackVM.Number.Text
import StackVM.Shell.Numeral

/-! # Formatted text

The conversions of a format: integers in three bases, fractions in three notations, characters and
texts, each with flags, a width and a precision.
-/

namespace StackVM.Shell

/-- A conversion of a format. -/
structure Conversion where
  /-- The flags that were given. -/
  flags : List Char := []
  width : Nat := 0
  precision : Option Nat := none
  letter : Char

namespace Conversion

def has (c : Conversion) (flag : Char) : Bool := c.flags.contains flag

/-- Fills a text up to the width with blanks. -/
def pad (c : Conversion) (text : List Char) : List Char :=
  let blanks := List.replicate (c.width - text.length) ' '
  if c.has '-' then text ++ blanks else blanks ++ text

/-- A number with its sign or base in front; zeros fill it up if they are asked for. -/
def padNumber (c : Conversion) (zeros : Bool) (front digits : List Char) : List Char :=
  if zeros && c.has '0' && !c.has '-' then
    front ++ List.replicate (c.width - front.length - digits.length) '0' ++ digits
  else c.pad (front ++ digits)

def sign (c : Conversion) (negative : Bool) : List Char :=
  if negative then ['-'] else if c.has '+' then ['+'] else if c.has ' ' then [' '] else []

/-- Digits with at least as many places as the precision asks for. -/
def withPrecision (c : Conversion) (digits : List Char) : List Char :=
  match c.precision with
  | some 0 => if digits == ['0'] then [] else digits
  | some n => List.replicate (n - digits.length) '0' ++ digits
  | none => digits

def integer (c : Conversion) (n : Int) : List Char :=
  let unsigned := (n % 0x10000000000000000).toNat
  match c.letter with
  | 'd' | 'i' =>
    c.padNumber c.precision.isNone (c.sign (n < 0)) (c.withPrecision (Nat.toDigits 10 n.natAbs))
  | 'u' => c.padNumber c.precision.isNone [] (c.withPrecision (Nat.toDigits 10 unsigned))
  | 'o' =>
    let digits := c.withPrecision (Nat.toDigits 8 unsigned)
    let digits := if c.has '#' && digits.head? != some '0' then '0' :: digits else digits
    c.padNumber c.precision.isNone [] digits
  | letter =>
    let digits := c.withPrecision (Nat.toDigits 16 unsigned)
    let front := if c.has '#' && unsigned != 0 then ['0', 'x'] else []
    if letter == 'X' then
      c.padNumber c.precision.isNone (front.map Char.toUpper) (digits.map Char.toUpper)
    else c.padNumber c.precision.isNone front digits

/-- The quotient rounded to the nearest integer, a half going to the even neighbour. -/
def roundQuotient (a b : Nat) : Nat :=
  let q := a / b
  let twice := 2 * (a % b)
  if twice > b || (twice == b && q % 2 == 1) then q + 1 else q

/-- The magnitude of a finite number as a quotient. -/
def quotient (x : Float) : Nat × Nat :=
  let p := Number.parts x
  if p.exponent < 0 then (p.significand, 1 <<< (-p.exponent).toNat)
  else (p.significand <<< p.exponent.toNat, 1)

/-- Digits with a point so many places from their end; with no places there is a point only if it is
asked for. -/
def pointed (c : Conversion) (places : Nat) (digits : List Char) : List Char :=
  let digits := List.replicate (places + 1 - digits.length) '0' ++ digits
  let whole := digits.take (digits.length - places)
  let fraction := digits.drop (digits.length - places)
  whole ++ if fraction.isEmpty && !c.has '#' then [] else '.' :: fraction

/-- Positional notation with so many places. -/
def fixedDigits (c : Conversion) (places : Nat) (x : Float) : List Char :=
  let (a, b) := quotient x
  c.pointed places (Nat.toDigits 10 (roundQuotient (a * Nat.pow 10 places) b))

/-- The digits of a positive quotient in scientific notation with so many places, and the exponent.
The exponent is searched from a guess by the number of digits. -/
def scientific (places a b : Nat) : Nat × Int :=
  if a == 0 then (0, 0)
  else
    let guess : Int := (Nat.toDigits 10 a).length - (Nat.toDigits 10 b).length
    let exponent : Int :=
      if guess ≥ 0 then if a < b * Nat.pow 10 guess.toNat then guess - 1 else guess
      else if a * Nat.pow 10 (-guess).toNat < b then guess - 1 else guess
    let shift : Int := places - exponent
    let digits := if shift ≥ 0 then roundQuotient (a * Nat.pow 10 shift.toNat) b
      else roundQuotient a (b * Nat.pow 10 (-shift).toNat)
    if digits ≥ Nat.pow 10 (places + 1) then (digits / 10, exponent + 1) else (digits, exponent)

def exponentText (e : Int) : List Char :=
  let digits := Nat.toDigits 10 e.natAbs
  'e' :: (if e < 0 then '-' else '+') :: (if digits.length < 2 then '0' :: digits else digits)

/-- Scientific notation with so many places. -/
def exponentDigits (c : Conversion) (places : Nat) (x : Float) : List Char :=
  let (a, b) := quotient x
  let (digits, e) := scientific places a b
  c.pointed places (Nat.toDigits 10 digits) ++ exponentText e

/-- Removes zeros at the end of a fraction. -/
def trimFraction (digits : List Char) : List Char :=
  if digits.contains '.' then
    let kept := (digits.reverse.dropWhile (· == '0'))
    (if kept.head? == some '.' then kept.tail else kept).reverse
  else digits

/-- The shorter of both notations with so many significant digits. -/
def generalDigits (c : Conversion) (precision : Nat) (x : Float) : List Char :=
  let p := if precision == 0 then 1 else precision
  let (a, b) := quotient x
  let (_, e) := scientific (p - 1) a b
  let tidy := fun (digits : List Char) => if c.has '#' then digits else trimFraction digits
  if e < -4 || e ≥ p then
    let (digits, e) := scientific (p - 1) a b
    tidy (c.pointed (p - 1) (Nat.toDigits 10 digits)) ++ exponentText e
  else tidy (c.fixedDigits ((p : Int) - 1 - e).toNat x)

def fraction (c : Conversion) (x : Float) : List Char :=
  let upper := c.letter == 'E' || c.letter == 'F' || c.letter == 'G'
  let front := c.sign (Number.isNegative x)
  let case := fun (text : List Char) => if upper then text.map Char.toUpper else text
  if Number.isNaN x then c.pad (front ++ case "nan".toList)
  else if !Number.isFinite x then c.pad (front ++ case "inf".toList)
  else
    let precision := c.precision.getD 6
    let digits := match c.letter.toLower with
      | 'f' => c.fixedDigits precision x
      | 'e' => c.exponentDigits precision x
      | _ => c.generalDigits precision x
    c.padNumber true front (case digits)

/-- A text, cut to the precision. -/
def text (c : Conversion) (s : List Char) : List Char :=
  c.pad (match c.precision with | some n => s.take n | none => s)

end Conversion

/-- A part of a format: some text, or a conversion. A star takes a number from the arguments. -/
inductive FormatPart where
  | literal (text : List Char)
  | conversion (flags : List Char) (width precision : Option (Option Nat)) (letter : Char)

/-- A width or precision at the start of a text: digits, or a star. -/
def readCount : List Char → Option (Option Nat) × List Char
  | '*' :: rest => (some none, rest)
  | cs =>
    let digits := cs.takeWhile Char.isDigit
    if digits.isEmpty then (none, cs)
    else (some (some (readNatural 10 0 digits).1), cs.drop digits.length)

/-- A conversion behind its percent sign, and what follows it. -/
def readConversion (cs : List Char) : Option (FormatPart × List Char) :=
  let flags := cs.takeWhile fun c => ['-', '+', ' ', '#', '0'].contains c
  let (width, cs) := readCount (cs.drop flags.length)
  let (precision, cs) := match cs with
    | '.' :: rest =>
      let (precision, rest) := readCount rest
      (some (precision.getD (some 0)), rest)
    | rest => (none, rest)
  match cs.dropWhile fun c => ['h', 'l', 'j', 'z', 't', 'L', 'q'].contains c with
  | letter :: rest => some (.conversion flags width precision letter, rest)
  | [] => none

end StackVM.Shell
