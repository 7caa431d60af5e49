import StackVM.Text.Invisible

/-! # Quoted text

A text between double quotes. Quotes, backslashes and the usual control characters are written as
two characters, other characters that cannot be shown by their number in hexadecimal.
-/

namespace StackVM.Text

/-- The short escape of a character, if it has one. -/
def shortEscape? (c : Char) : Option Char :=
  match c with
  | '\x00' => some '0'
  | '\t' => some 't'
  | '\n' => some 'n'
  | '\r' => some 'r'
  | '"' => some '"'
  | '\\' => some '\\'
  | _ => none

/-- A character written by its number. -/
def numberEscape (c : Char) : List Char :=
  ['\\', 'u', '\x7b'] ++ Nat.toDigits 16 c.toNat ++ ['\x7d']

/-- How a character stands in a quoted text. -/
def quoteChar (c : Char) : List Char :=
  match shortEscape? c with
  | some e => ['\\', e]
  | none => if isInvisible c then numberEscape c else [c]

def quote (text : String) : String :=
  String.ofList ('"' :: text.toList.flatMap quoteChar ++ ['"'])

end StackVM.Text
