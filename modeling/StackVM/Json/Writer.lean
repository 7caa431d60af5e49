import StackVM.Json.Basic

/-! # Writing JSON

The compact form has no blanks; the pretty form puts every item and member on a line of its own,
indented by two spaces a level.
-/

namespace StackVM.Json

/-- The escape of a character that must not stand in a string as it is. -/
def escapeChar (c : Char) : List Char :=
  match c with
  | '"' => ['\\', '"']
  | '\\' => ['\\', '\\']
  | '\x08' => ['\\', 'b']
  | '\x0c' => ['\\', 'f']
  | '\n' => ['\\', 'n']
  | '\r' => ['\\', 'r']
  | '\t' => ['\\', 't']
  | _ =>
    if c.toNat < 0x20 then
      ['\\', 'u', '0', '0', Nat.digitChar (c.toNat / 16), Nat.digitChar (c.toNat % 16)]
    else [c]

def stringChars (s : String) : List Char := '"' :: s.toList.flatMap escapeChar ++ ['"']

mutual

def compactChars : Json → List Char
  | .null => "null".toList
  | .bool b => (if b then "true" else "false").toList
  | .int n => (Number.integerText n).toList
  | .float x => (Number.jsonText x).toList
  | .str s => stringChars s
  | .arr items => '[' :: compactItems items ++ [']']
  | .obj members => '\x7b' :: compactMembers members ++ ['\x7d']

def compactItems : List Json → List Char
  | [] => []
  | [j] => compactChars j
  | j :: rest => compactChars j ++ ',' :: compactItems rest

def compactMembers : List (String × Json) → List Char
  | [] => []
  | [(k, j)] => stringChars k ++ ':' :: compactChars j
  | (k, j) :: rest => stringChars k ++ ':' :: compactChars j ++ ',' :: compactMembers rest

end

/-- A line break followed by the indentation of a level. -/
def lineBreak (level : Nat) : List Char := '\n' :: List.replicate (2 * level) ' '

mutual

/-- The pretty form at an indentation level. -/
def prettyChars (level : Nat) : Json → List Char
  | .null => "null".toList
  | .bool b => (if b then "true" else "false").toList
  | .int n => (Number.integerText n).toList
  | .float x => (Number.jsonText x).toList
  | .str s => stringChars s
  | .arr [] => ['[', ']']
  | .arr (j :: rest) => '[' :: prettyItems (level + 1) (j :: rest) ++ lineBreak level ++ [']']
  | .obj [] => ['\x7b', '\x7d']
  | .obj (m :: rest) =>
    '\x7b' :: prettyMembers (level + 1) (m :: rest) ++ lineBreak level ++ ['\x7d']

/-- Items on lines of their own. -/
def prettyItems (level : Nat) : List Json → List Char
  | [] => []
  | [j] => lineBreak level ++ prettyChars level j
  | j :: rest => lineBreak level ++ prettyChars level j ++ ',' :: prettyItems level rest

/-- Members on lines of their own. -/
def prettyMembers (level : Nat) : List (String × Json) → List Char
  | [] => []
  | [(k, j)] => lineBreak level ++ stringChars k ++ ':' :: ' ' :: prettyChars level j
  | (k, j) :: rest =>
    lineBreak level ++ stringChars k ++ ':' :: ' ' :: prettyChars level j ++
      ',' :: prettyMembers level rest

end

def compact (j : Json) : String := String.ofList j.compactChars

def pretty (j : Json) : String := String.ofList (j.prettyChars 0)

end StackVM.Json
