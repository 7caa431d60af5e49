/-! # Percent classes

Patterns are written with percent signs: `%d` stands for a digit, `%.` for a dot. The expansion
turns them into the extended notation, in which a backslash takes the meaning off a character and
brackets enclose sets. A bar and a backslash stand for themselves in a pattern.
-/

namespace StackVM.Pattern

/-- The characters that have a meaning of their own in the extended notation. -/
def specials : List Char :=
  ['\\', '.', '+', '*', '?', '(', ')', '|', '[', ']', '\x7b', '\x7d', '^', '$', '#', '&', '-', '~']

/-- A character that stands for itself. -/
def escape (c : Char) : List Char := if specials.contains c then ['\\', c] else [c]

/-- What a percent sign followed by this character stands for. -/
def expandPercent (c : Char) : List Char :=
  match c with
  | 'a' => "[A-Za-z]".toList
  | 'c' => "[\\x00-\\x1F\\x7F]".toList
  | 'd' => "\\d".toList
  | 'g' => "[\\x21-\\x7E]".toList
  | 'l' => "[a-z]".toList
  | 'p' => "[\\x21-\\x2F\\x3A-\\x40\\x5B-\\x60\\x7B-\\x7E]".toList
  | 's' => "\\s".toList
  | 'u' => "[A-Z]".toList
  | 'w' => "\\w".toList
  | 'x' => "[A-Fa-f0-9]".toList
  | 'z' => "\\x00".toList
  | other => escape other

/-- The extended notation of a pattern; a percent sign at the end stands for itself. -/
def expand : List Char → List Char
  | [] => []
  | ['%'] => ['%']
  | '%' :: c :: rest => expandPercent c ++ expand rest
  | '|' :: rest => '\\' :: '|' :: expand rest
  | '\\' :: rest => '\\' :: '\\' :: expand rest
  | c :: rest => c :: expand rest

end StackVM.Pattern
