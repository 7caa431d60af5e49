/-! # Wildcards of the shell

Within a pattern an asterisk stands for any text, a question mark for any character, and brackets
for one character of a set. Characters in quotes stand for themselves.
-/

namespace StackVM.Shell

/-- A character of a pattern; in quotes it stands for itself. -/
structure Cell where
  char : Char
  quoted : Bool
deriving DecidableEq, Repr

/-- A member of a set. -/
inductive GlobMember where
  | range (first last : Char)
  | named (name : String)
deriving DecidableEq, Repr

inductive GlobItem where
  | literal (c : Char)
  | one
  | many
  | set (negated : Bool) (members : List GlobMember)
deriving DecidableEq, Repr

namespace Glob

/-- The character belongs to a class, known by its name. -/
def isInClass (name : String) (c : Char) : Bool :=
  match name with
  | "alpha" => c.isAlpha
  | "digit" => c.isDigit
  | "alnum" => c.isAlphanum
  | "upper" => c.isUpper
  | "lower" => c.isLower
  | "space" => c == ' ' || ('\t' ≤ c && c ≤ '\r')
  | "blank" => c == ' ' || c == '\t'
  | "punct" => '!' ≤ c && c ≤ '~' && !c.isAlphanum
  | "print" => ' ' ≤ c && c ≤ '~'
  | "graph" => '!' ≤ c && c ≤ '~'
  | "cntrl" => c < ' ' || c == '\x7f'
  | "xdigit" => c.isDigit || ('a' ≤ c && c ≤ 'f') || ('A' ≤ c && c ≤ 'F')
  | _ => false

/-- The character is meant by a member. -/
def GlobMember.mem (c : Char) : GlobMember → Bool
  | .range first last => first ≤ c && c ≤ last
  | .named name => isInClass name c

/-- The name of a class and what follows it, behind a bracket and a colon. -/
def className? (cells : List Cell) : Option (String × List Cell) :=
  let name := cells.takeWhile fun x => x.char.isAlpha
  match cells.drop name.length with
  | ⟨':', _⟩ :: ⟨']', _⟩ :: rest => some (String.ofList (name.map (·.char)), rest)
  | _ => none

/-- The members of a set and what follows its closing bracket. A closing bracket that comes first
stands for itself; `fuel` bounds the number of members. -/
def members? (first : Bool) : Nat → List Cell → Option (List GlobMember × List Cell)
  | 0, _ => none
  | _, [] => none
  | fuel + 1, x :: rest =>
    if x.char == ']' && !x.quoted && !first then some ([], rest)
    else match x, rest with
      | ⟨'[', false⟩, ⟨':', false⟩ :: after =>
        match className? after with
        | some (name, rest) => do
          let (more, rest) ← members? false fuel rest
          return (.named name :: more, rest)
        | none => do
          let (more, rest) ← members? false fuel rest
          return (.range '[' '[' :: more, rest)
      | x, ⟨'-', false⟩ :: y :: after =>
        if y.char == ']' && !y.quoted then do
          let (more, rest) ← members? false fuel rest
          return (.range x.char x.char :: more, rest)
        else do
          let (more, rest) ← members? false fuel after
          return (.range x.char y.char :: more, rest)
      | x, rest => do
        let (more, rest) ← members? false fuel rest
        return (.range x.char x.char :: more, rest)

/-- The set behind an opening bracket and what follows it. -/
def set? : List Cell → Option (GlobItem × List Cell)
  | ⟨'!', false⟩ :: rest =>
    (members? true (rest.length + 1) rest).map fun (ms, rest) => (.set true ms, rest)
  | rest => (members? true (rest.length + 1) rest).map fun (ms, rest) => (.set false ms, rest)

/-- The items of a pattern; `fuel` bounds their number. -/
def itemsFrom : Nat → List Cell → List GlobItem
  | 0, _ => []
  | _, [] => []
  | fuel + 1, x :: rest =>
    if x.quoted then .literal x.char :: itemsFrom fuel rest
    else match x.char with
      | '*' => .many :: itemsFrom fuel rest
      | '?' => .one :: itemsFrom fuel rest
      | '[' =>
        match set? rest with
        | some (item, rest) => item :: itemsFrom fuel rest
        | none => .literal '[' :: itemsFrom fuel rest
      | c => .literal c :: itemsFrom fuel rest

def items (cells : List Cell) : List GlobItem := itemsFrom cells.length cells

/-- The item stands for more than itself. -/
def GlobItem.isWild : GlobItem → Bool
  | .literal _ => false
  | _ => true

/-- The item means one character. -/
def GlobItem.mem (c : Char) : GlobItem → Bool
  | .literal d => c == d
  | .one => true
  | .many => false
  | .set negated members => members.any (GlobMember.mem c) != negated

/-- The pattern matches the whole text. -/
def accepts : List GlobItem → List Char → Bool
  | [], cs => cs.isEmpty
  | .many :: items, cs =>
    accepts items cs || (match cs with
      | [] => false
      | _ :: rest => accepts (.many :: items) rest)
  | _ :: _, [] => false
  | item :: items, c :: rest => GlobItem.mem c item && accepts items rest
termination_by items cs => items.length + cs.length

def trimStart (items : List GlobItem) (longest : Bool) (text : List Char) : List Char :=
  let sizes := List.range (text.length + 1)
  let sizes := if longest then sizes.reverse else sizes
  match sizes.find? fun n => accepts items (text.take n) with
  | some n => text.drop n
  | none => text

/-- A text without the shortest or longest end that matches a pattern. -/
def trimEnd (items : List GlobItem) (longest : Bool) (text : List Char) : List Char :=
  let sizes := List.range (text.length + 1)
  let sizes := if longest then sizes else sizes.reverse
  match sizes.find? fun n => accepts items (text.drop n) with
  | some n => text.take n
  | none => text

end Glob

end StackVM.Shell
