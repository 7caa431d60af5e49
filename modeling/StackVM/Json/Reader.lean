import StackVM.Json.Lexer

/-! # Reading JSON

`readItems` and `readMembers` read a bracketed sequence with any reader for its items; `readValue`
closes the loop, the remaining nesting depth being the measure. `read` takes a whole text.
-/

namespace StackVM.Json

/-- How many brackets may be open at once. -/
def maxDepth : Nat := 127

/-- What comes next inside brackets: the closing one, or an item. -/
inductive Next where
  /-- The closing bracket; what stands after it is unread. -/
  | close (rest : List Char)
  /-- The start of an item or, in an object, of a key after its opening quote. -/
  | item (start : List Char)

/-- Looks for the next item of a list. -/
def nextItem (first : Bool) (cs : List Char) : Except Failure Next :=
  match skipBlanks cs with
  | [] => .error (.here .endInList [])
  | ']' :: rest => .ok (.close rest)
  | c :: rest =>
    if first then .ok (.item (c :: rest))
    else if c == ',' then
      match skipBlanks rest with
      | [] => .error (.here .endInValue [])
      | ']' :: rest => .error (.next .trailingComma (']' :: rest))
      | start => .ok (.item start)
    else .error (.next .expectedCommaOrBracket (c :: rest))

/-- Reads the items of a list up to and including its closing bracket. -/
def readItems {α : Type} (item : List Char → Scan α) :
    Nat → Bool → List Char → Except Failure (List α × List Char)
  | 0, _, cs => .error (.here .endInList cs)
  | fuel + 1, first, cs => do
    match ← nextItem first cs with
    | .close rest => return ([], rest)
    | .item start =>
      let (a, rest) ← item start
      let (more, rest) ← readItems item fuel false rest
      return (a :: more, rest)

/-- Looks for the next key of an object. -/
def nextKey (first : Bool) (cs : List Char) : Except Failure Next :=
  match skipBlanks cs with
  | [] => .error (.here .endInObject [])
  | '\x7d' :: rest => .ok (.close rest)
  | c :: rest =>
    if first then
      if c == '"' then .ok (.item rest) else .error (.next .keyMustBeString (c :: rest))
    else if c == ',' then
      match skipBlanks rest with
      | [] => .error (.here .endInValue [])
      | '"' :: rest => .ok (.item rest)
      | '\x7d' :: rest => .error (.next .trailingComma ('\x7d' :: rest))
      | other => .error (.next .keyMustBeString other)
    else .error (.next .expectedCommaOrBrace (c :: rest))

def skipColon (cs : List Char) : Except Failure (List Char) :=
  match skipBlanks cs with
  | [] => .error (.here .endInObject [])
  | ':' :: rest => .ok rest
  | other => .error (.next .expectedColon other)

/-- Reads the members of an object up to and including its closing brace. -/
def readMembers {α : Type} (item : List Char → Scan α) :
    Nat → Bool → List Char → Except Failure (List (String × α) × List Char)
  | 0, _, cs => .error (.here .endInObject cs)
  | fuel + 1, first, cs => do
    match ← nextKey first cs with
    | .close rest => return ([], rest)
    | .item start =>
      let (key, rest) ← scanString start
      let rest ← skipColon rest
      let (a, rest) ← item rest
      let (more, rest) ← readMembers item fuel false rest
      return ((String.ofList key, a) :: more, rest)

/-- Reads a value, with a reader for what stands inside brackets unless none may be opened. -/
def readWith (inner : Option (List Char → Scan Json)) (cs : List Char) : Scan Json :=
  match skipBlanks cs with
  | [] => .error (.here .endInValue [])
  | 'n' :: rest => (scanWord "ull".toList rest).map (.null, ·)
  | 't' :: rest => (scanWord "rue".toList rest).map (.bool true, ·)
  | 'f' :: rest => (scanWord "alse".toList rest).map (.bool false, ·)
  | '-' :: rest => scanNumber true rest
  | '"' :: rest => (scanString rest).map fun (text, rest) => (.str (String.ofList text), rest)
  | '[' :: rest =>
    match inner with
    | none => .error (.next .tooDeep ('[' :: rest))
    | some item =>
      (readItems item (rest.length + 1) true rest).map fun (items, rest) => (.arr items, rest)
  | '\x7b' :: rest =>
    match inner with
    | none => .error (.next .tooDeep ('\x7b' :: rest))
    | some item =>
      (readMembers item (rest.length + 1) true rest).map fun (members, rest) => (.obj members, rest)
  | c :: rest =>
    if c.isDigit then scanNumber false (c :: rest) else .error (.next .expectedValue (c :: rest))

/-- Reads a value in which at most `depth` brackets are open at once. -/
def readValue : Nat → List Char → Scan Json
  | 0 => readWith none
  | depth + 1 => readWith (some (readValue depth))

/-- Nothing but blanks may follow a document. -/
def finish {α : Type} (a : α) (cs : List Char) : Except Failure α :=
  match skipBlanks cs with
  | [] => .ok a
  | rest => .error (.next .trailingCharacters rest)

def readChars (text : List Char) : Except Failure Json := do
  let (j, rest) ← readValue maxDepth text
  finish j rest

/-- Reads a whole document; a failure is described with its position. -/
def read (text : String) : Except String Json :=
  match readChars text.toList with
  | .ok j => .ok j
  | .error f => .error (f.describe text.toList)

end StackVM.Json
