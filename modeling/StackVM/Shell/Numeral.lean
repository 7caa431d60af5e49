import StackVM.Number.Text

/-! # Numerals of the shell -/

namespace StackVM.Shell

def isSpace (c : Char) : Bool := c == ' ' || ('\t' ≤ c && c ≤ '\r')

def digitValue (c : Char) : Nat :=
  if c.isDigit then c.toNat - 48
  else if 'a' ≤ c && c ≤ 'z' then c.toNat - 87
  else if 'A' ≤ c && c ≤ 'Z' then c.toNat - 55
  else 36

/-- The number of the digits at the start of a text, and what follows them. -/
def readNatural (base value : Nat) : List Char → Nat × List Char
  | [] => (value, [])
  | c :: rest =>
    if digitValue c < base then readNatural base (value * base + digitValue c) rest
    else (value, c :: rest)

/-- The base of a numeral and its digits: `0x` stands for sixteen and `0` for eight. -/
def splitBase : List Char → Nat × List Char
  | '0' :: x :: d :: rest =>
    if (x == 'x' || x == 'X') && digitValue d < 16 then (16, d :: rest) else (8, '0' :: x :: d :: rest)
  | '0' :: rest => (8, '0' :: rest)
  | cs => (10, cs)

/-- The number at the start of a text, behind white space and a sign, and what follows it; base zero
looks at the digits. `none` if there are no digits. -/
def readNumber? (base : Nat) (text : List Char) : Option (Int × List Char) :=
  let text := text.dropWhile isSpace
  let (negative, digits) := match text with
    | '-' :: rest => (true, rest)
    | '+' :: rest => (false, rest)
    | rest => (false, rest)
  let (base, digits) := if base == 0 then splitBase digits else (base, digits)
  if digits.isEmpty || base ≤ digitValue (digits.headD ' ') then none
  else
    let (n, rest) := readNatural base 0 digits
    some (if negative then -(n : Int) else n, rest)

def maxNumber : Int := 0x7fffffffffffffff

def minNumber : Int := -0x8000000000000000

def clamp (n : Int) : Int := max minNumber (min maxNumber n)

def wrap (n : Int) : Int :=
  let r := n % 0x10000000000000000
  if r > maxNumber then r - 0x10000000000000000 else r

/-- The number that a whole text denotes, apart from white space around it. -/
def wholeNumber? (base : Nat) (text : List Char) : Option Int := do
  let (n, rest) ← readNumber? base text
  if (rest.all isSpace) && minNumber ≤ n && n ≤ maxNumber then some n else none

def numeral (n : Int) : String := Number.integerText n

end StackVM.Shell
