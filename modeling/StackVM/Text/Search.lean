/-! # Occurrences of one text in another

Occurrences are taken from left to right and do not overlap. After an occurrence the functions pass
over the rest of it with a counter, so that each of them walks the text once.
-/

namespace StackVM.Text

def startsWith (text needle : List Char) : Bool := needle.isPrefixOf text

def endsWith (text needle : List Char) : Bool := needle.isSuffixOf text

/-- The pieces between the occurrences of a non-empty needle, passing over `skip` characters. -/
def splitFrom (needle : List Char) : Nat → List Char → List (List Char)
  | _, [] => [[]]
  | skip + 1, _ :: rest => splitFrom needle skip rest
  | 0, c :: rest =>
    if startsWith (c :: rest) needle then [] :: splitFrom needle (needle.length - 1) rest
    else match splitFrom needle 0 rest with
      | piece :: more => (c :: piece) :: more
      | [] => [[c]]

/-- The pieces of a text between the occurrences of a delimiter; an empty delimiter splits it into
its characters. -/
def split (text delimiter : List Char) : List (List Char) :=
  if delimiter.isEmpty then text.map ([·]) else splitFrom delimiter 0 text

/-- Writes `new` in place of every occurrence of a non-empty needle, passing over `skip`
characters. -/
def replaceFrom (needle new : List Char) : Nat → List Char → List Char
  | _, [] => []
  | skip + 1, _ :: rest => replaceFrom needle new skip rest
  | 0, c :: rest =>
    if startsWith (c :: rest) needle then new ++ replaceFrom needle new (needle.length - 1) rest
    else c :: replaceFrom needle new 0 rest

def replace (text needle new : List Char) : List Char :=
  if needle.isEmpty then text else replaceFrom needle new 0 text

/-- The positions, counted from `position`, of the occurrences of a non-empty needle, passing over
`skip` characters. -/
def occurrencesFrom (needle : List Char) : Nat → Nat → List Char → List Nat
  | _, _, [] => []
  | skip + 1, position, _ :: rest => occurrencesFrom needle skip (position + 1) rest
  | 0, position, c :: rest =>
    if startsWith (c :: rest) needle then
      position :: occurrencesFrom needle (needle.length - 1) (position + 1) rest
    else occurrencesFrom needle 0 (position + 1) rest

/-- The positions of the occurrences of a needle; an empty needle occurs nowhere. -/
def occurrences (text needle : List Char) : List Nat :=
  if needle.isEmpty then [] else occurrencesFrom needle 0 0 text

/-- The position of the first occurrence; an empty needle stands at the start. -/
def indexOf? (text needle : List Char) : Option Nat :=
  if needle.isEmpty then some 0 else (occurrencesFrom needle 0 0 text).head?

def contains (text needle : List Char) : Bool := (indexOf? text needle).isSome

/-- Puts a separator between the pieces. -/
def join (separator : List Char) : List (List Char) → List Char
  | [] => []
  | [piece] => piece
  | piece :: more => piece ++ separator ++ join separator more

end StackVM.Text
