import StackVM.Json.Basic
import StackVM.Json.Failure
import StackVM.Number.Reading

/-! # Blanks, words, strings and numbers of JSON -/

namespace StackVM.Json

/-- The four blank characters of JSON. -/
def isBlank (c : Char) : Bool := c == ' ' || c == '\t' || c == '\n' || c == '\r'

def skipBlanks (cs : List Char) : List Char := cs.dropWhile isBlank

/-- Reads the given letters. -/
def scanWord : List Char → List Char → Except Failure (List Char)
  | [], cs => .ok cs
  | _ :: _, [] => .error (.here .endInValue [])
  | w :: word, c :: rest =>
    if c == w then scanWord word rest else .error (.next .expectedIdent (c :: rest))

def hexDigit? (c : Char) : Option Nat :=
  if c.isDigit then some (c.toNat - '0'.toNat)
  else if 'a' ≤ c && c ≤ 'f' then some (c.toNat - 'a'.toNat + 10)
  else if 'A' ≤ c && c ≤ 'F' then some (c.toNat - 'A'.toNat + 10)
  else none

/-- The value of four hexadecimal digits. -/
def hexValue? (a b c d : Char) : Option Nat := do
  let a ← hexDigit? a
  let b ← hexDigit? b
  let c ← hexDigit? c
  let d ← hexDigit? d
  return ((a * 16 + b) * 16 + c) * 16 + d

/-- The first half of a character beyond the first 65536. -/
def isHighSurrogate (n : Nat) : Bool := 0xd800 ≤ n && n ≤ 0xdbff

/-- The second half of such a character. -/
def isLowSurrogate (n : Nat) : Bool := 0xdc00 ≤ n && n ≤ 0xdfff

/-- The character of two halves. -/
def joinSurrogates (high low : Nat) : Char :=
  Char.ofNat (0x10000 + (high - 0xd800) * 0x400 + (low - 0xdc00))

/-- The character that a letter after a backslash stands for. -/
def escaped? (c : Char) : Option Char :=
  match c with
  | '"' => some '"'
  | '\\' => some '\\'
  | '/' => some '/'
  | 'b' => some '\x08'
  | 'f' => some '\x0c'
  | 'n' => some '\n'
  | 'r' => some '\r'
  | 't' => some '\t'
  | _ => none

/-- The failure of a numeric escape: the text ends within its four bytes, or they are no digits. -/
def badHex (afterMark : List Char) : Failure :=
  if Text.utf8Size afterMark < 4 then .here .endInString [] else ⟨.invalidEscape, afterMark, 4⟩

/-- The failure of a first half that no second half follows. -/
def cutSurrogate (cs : List Char) : Failure :=
  if cs.isEmpty then .here .endInString [] else .next .unfinishedSurrogate cs

/-- Puts a character in front of a scanned text. -/
def Scan.cons (c : Char) (s : Scan (List Char)) : Scan (List Char) :=
  s.map fun (text, rest) => (c :: text, rest)

/-- Reads the rest of a string after its opening quote. -/
def scanString : List Char → Scan (List Char)
  | [] => .error (.here .endInString [])
  | '"' :: rest => .ok ([], rest)
  | ['\\'] => .error (.here .endInString [])
  | '\\' :: 'u' :: a :: b :: c :: d :: rest =>
    match hexValue? a b c d with
    | none => .error (badHex (a :: b :: c :: d :: rest))
    | some high =>
      if isLowSurrogate high then .error (.here .loneSurrogate rest)
      else if isHighSurrogate high then
        match rest with
        | '\\' :: 'u' :: e :: f :: g :: h :: rest =>
          match hexValue? e f g h with
          | none => .error (badHex (e :: f :: g :: h :: rest))
          | some low =>
            if isLowSurrogate low then Scan.cons (joinSurrogates high low) (scanString rest)
            else .error (.here .loneSurrogate rest)
        | '\\' :: 'u' :: rest => .error (badHex rest)
        | '\\' :: rest => .error (cutSurrogate rest)
        | rest => .error (cutSurrogate rest)
      else Scan.cons (Char.ofNat high) (scanString rest)
  | '\\' :: 'u' :: rest => .error (badHex rest)
  | '\\' :: c :: rest =>
    match escaped? c with
    | some e => Scan.cons e (scanString rest)
    | none => .error (.next .invalidEscape (c :: rest))
  | c :: rest =>
    if c.toNat < 0x20 then .error (.here .controlCharacter rest) else Scan.cons c (scanString rest)

/-- The greatest exponent that is read digit by digit. -/
def maxExponent : Nat := 2147483647

/-- Reads the digits of an exponent while its value stays within `maxExponent`. The flag tells
whether it did. -/
def scanExponentDigits (value : Nat) : List Char → (Nat × Bool) × List Char
  | [] => ((value, true), [])
  | c :: rest =>
    if c.isDigit then
      let next := 10 * value + (c.toNat - '0'.toNat)
      if next ≤ maxExponent then scanExponentDigits next rest else ((next, false), rest)
    else ((value, true), c :: rest)

/-- A float document, unless its magnitude is out of range. -/
def finiteFloat (negative : Bool) (x : Float) (rest : List Char) : Scan Json :=
  if Number.isFinite x then .ok (.float (Number.signed negative x), rest)
  else .error (.here .numberOutOfRange rest)

/-- Reads the exponent that follows its mark and gives the number. -/
def scanExponent (negative : Bool) (significand : Nat) (places : Nat) (cs : List Char) :
    Scan Json :=
  let (down, digits) := match cs with
    | '-' :: rest => (true, rest)
    | '+' :: rest => (false, rest)
    | rest => (false, rest)
  match digits with
  | [] => .error (.here .endInValue [])
  | c :: _ =>
    if !c.isDigit then .error (.next .invalidNumber digits)
    else
      let ((value, small), rest) := scanExponentDigits 0 digits
      if small then
        let exponent : Int := (if down then -(value : Int) else value) - places
        finiteFloat negative (Number.nearestDecimal significand exponent) rest
      else if significand == 0 || down then
        .ok (.float (Number.signed negative 0.0), rest.dropWhile Char.isDigit)
      else .error (.here .numberOutOfRange rest)

/-- The number without fraction and exponent: an integer when it fits 64 bits. Negative zero does
not count as an integer. -/
def wholeNumber (negative : Bool) (n : Nat) (rest : List Char) : Scan Json :=
  if negative then
    if n != 0 && n ≤ 0x8000000000000000 then .ok (.int (-(n : Int)), rest)
    else finiteFloat true (Number.nearestDecimal n 0) rest
  else if n < 0x10000000000000000 then .ok (.int n, rest)
  else finiteFloat false (Number.nearestDecimal n 0) rest

/-- Reads what follows the integer part of a number. -/
def scanFraction (negative : Bool) (n : Nat) : List Char → Scan Json
  | '.' :: rest =>
    let (digits, rest) := Number.spanDigits rest
    if digits.isEmpty then
      .error (if rest.isEmpty then .here .endInValue [] else .next .invalidNumber rest)
    else
      let significand := Number.digitsValue n digits
      match rest with
      | 'e' :: rest => scanExponent negative significand digits.length rest
      | 'E' :: rest => scanExponent negative significand digits.length rest
      | rest =>
        finiteFloat negative (Number.nearestDecimal significand (-(digits.length : Int))) rest
  | 'e' :: rest => scanExponent negative n 0 rest
  | 'E' :: rest => scanExponent negative n 0 rest
  | rest => wholeNumber negative n rest

/-- Reads a number after its sign. -/
def scanNumber (negative : Bool) : List Char → Scan Json
  | [] => .error (.here .endInValue [])
  | '0' :: rest =>
    match rest with
    | c :: _ =>
      if c.isDigit then .error (.next .invalidNumber rest) else scanFraction negative 0 rest
    | [] => scanFraction negative 0 []
  | c :: rest =>
    if c.isDigit then
      let (digits, rest) := Number.spanDigits (c :: rest)
      scanFraction negative (Number.digitsValue 0 digits) rest
    else .error (.next .invalidNumber (c :: rest))

end StackVM.Json
