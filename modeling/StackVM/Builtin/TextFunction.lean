import StackVM.Builtin.Params
import StackVM.Pattern.Basic
import StackVM.Text.Distance
import StackVM.Text.Search

/-! # Builtins on texts -/

namespace StackVM

inductive TextFunction where
  | wordDiff
  | split
  | join
  | lower
  | upper
  | camel
  | replace
  | lpad
  | rpad
  | filter
  | matches
  | firstMatch
  | ascii
  | char
  | beginsWith
  | endsWith
  | numericString
  | trim
  | glob
deriving DecidableEq, Repr

namespace TextFunction

def ofChars (cs : List Char) : Value := .str (String.ofList cs)

/-- Fills a text up to a width with the first character of another text, or with blanks. -/
def pad (left : Bool) (name : String) (p : Params) : Reply :=
  let text := p.chars 0
  let fill := (p.chars 1).headD ' '
  let (width, warnings) := clampWidth name (p.num 2)
  let padding := List.replicate (width - text.length) fill
  ⟨ofChars (if left then padding ++ text else text ++ padding), warnings⟩

/-- Keeps the characters that a pattern matches on their own. -/
def keepMatching (text pattern : String) : String :=
  match Pattern.ofText? pattern with
  | some p => String.ofList (text.toList.filter fun c => p.accepts (String.singleton c))
  | none => ""

/-- The character of a code point; a replacement character if there is none. -/
def character (code : Float) : Char :=
  let n := min (Number.toNat code) 0xffffffff
  if n.isValidChar then Char.ofNat n else Char.ofNat 0xFFFD

/-- The trimmed text is the numeral of a finite number. -/
def isNumeral (text : String) : Bool := (Number.read? (Text.trim text)).any (Number.isFinite ·.toFloat)

/-- Removes characters of a set from both ends; white space if the set is empty. -/
def trimmed (text chars : String) : String :=
  if chars.isEmpty then Text.trim text
  else String.ofList (Text.trimMatching chars.toList.contains text.toList)

/-- Puts the text of a value in place of every asterisk of a template. -/
def instantiate (template : List Char) (v : Value) : Value :=
  ofChars (Text.replace template ['*'] v.text.toList)

/-- Parameters with arrays replaced by their items. -/
def spread (p : Params) : List Value :=
  p.flatMap fun
    | .arr items => items
    | v => [v]

def apply (f : TextFunction) (p : Params) : Reply :=
  match f with
  | .wordDiff => Value.ofNat (Text.distance (p.chars 0) (p.chars 1))
  | .split => Value.arr ((Text.split (p.chars 0) (p.chars 1)).map ofChars)
  | .join => ofChars (Text.join (p.chars 1) ((p.list 0).map (·.text.toList)))
  | .lower => Value.str (Text.lower (p.text 0))
  | .upper => Value.str (Text.upper (p.text 0))
  | .camel => Value.str (Text.capitalize (p.text 0))
  | .replace => ofChars (Text.replace (p.chars 0) (p.chars 1) (p.chars 2))
  | .lpad => pad true "lpad" p
  | .rpad => pad false "rpad" p
  | .filter => Value.str (keepMatching (p.text 0) (p.text 1))
  | .matches => Value.arr ((Pattern.matchText (p.text 0) (p.text 1)).map .str)
  | .firstMatch => ((Pattern.matchText (p.text 0) (p.text 1)).head?.map Value.str).getD .null
  | .ascii => ofChars [character (p.num 0)]
  | .char => ((p.chars 0).head?.map fun c => Value.ofNat c.toNat).getD .null
  | .beginsWith => Value.bool (Text.startsWith (p.chars 0) (p.chars 1))
  | .endsWith => Value.bool (Text.endsWith (p.chars 0) (p.chars 1))
  | .numericString => Value.bool (isNumeral (p.text 0))
  | .trim => Value.str (trimmed (p.text 0) (p.text 1))
  | .glob => Value.arr ((spread (p.drop 1)).map (instantiate (p.chars 0)))

end TextFunction

end StackVM
