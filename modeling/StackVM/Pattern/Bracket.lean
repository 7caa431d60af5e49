import StackVM.Pattern.Scan

/-! # Sets in brackets

Within brackets stand characters, ranges, classes and further brackets. `&&`, `--` and `~~` combine
what stands on their left with what stands on their right, from left to right. A closing bracket
that comes first and minus signs that come first or last stand for themselves.

Brackets, operators and unions of several items count for the depth of a set.
-/

namespace StackVM.Pattern

inductive SetOperator where
  | inter
  | diff
  | symmDiff
deriving DecidableEq, Repr

def SetOperator.apply : SetOperator → CharClass → CharClass → CharClass
  | .inter, a, b => .inter a b
  | .diff, a, b => .diff a b
  | .symmDiff, a, b => .symmDiff a b

/-- A set and the depth of its notation. -/
structure NestedSet where
  set : CharClass
  depth : Nat := 0

/-- A bracket that has been opened and not yet closed. -/
structure OpenBracket where
  negated : Bool
  /-- The operand on the left of the last operator. -/
  left : Option (NestedSet × SetOperator) := none
  /-- The union of the items since then, and the depth of the deepest item. -/
  items : NestedSet := ⟨.empty, 0⟩
  /-- How many items there are since then. -/
  count : Nat := 0

namespace OpenBracket

def add (b : OpenBracket) (item : NestedSet) : OpenBracket :=
  let set := match b.items.set with
    | .empty => item.set
    | items => .union items item.set
  { b with items := ⟨set, max b.items.depth item.depth⟩, count := b.count + 1 }

/-- The depth of the items since the last operator. -/
def itemDepth (b : OpenBracket) : Nat := if b.count < 2 then b.items.depth else b.items.depth + 1

/-- The set so far, without a negation. -/
def content (b : OpenBracket) (f : Flags) : NestedSet :=
  match b.left with
  | none => ⟨b.items.set, b.itemDepth⟩
  | some (left, op) =>
    ⟨op.apply (f.fold left.set) (f.fold b.items.set), max left.depth b.itemDepth + 1⟩

/-- Goes on with the right operand of an operator. -/
def operate (b : OpenBracket) (f : Flags) (op : SetOperator) : OpenBracket :=
  { negated := b.negated, left := some (b.content f, op) }

/-- The set of a closed bracket. A negation needs all characters. -/
def close? (b : OpenBracket) (f : Flags) : Option NestedSet :=
  let content := b.content f
  let set := f.fold content.set
  if !b.negated then some ⟨set, content.depth + 1⟩
  else if f.unicode then some ⟨.compl set, content.depth + 1⟩
  else none

end OpenBracket

/-- Passes over leading minus signs; says how many there were. -/
def skipDashes (f : Flags) (comment : Bool) (count : Nat) : List Char → Nat × List Char
  | [] => (count, [])
  | c :: rest =>
    if comment then skipDashes f (c != '\n') count rest
    else if c == '-' then skipDashes f false (count + 1) rest
    else if f.verbose && Text.isBlank c then skipDashes f false count rest
    else if f.verbose && c == '#' then skipDashes f true count rest
    else (count, c :: rest)

def scanOpen (f : Flags) (cs : List Char) : OpenBracket × List Char :=
  let (negated, cs) := match skipIgnored f cs with
    | '^' :: rest => (true, skipIgnored f rest)
    | rest => (false, rest)
  let (dashes, cs) := skipDashes f false 0 cs
  let bracket : OpenBracket := { negated }
  if dashes != 0 then ({ bracket with items := ⟨.single '-', 0⟩, count := dashes }, cs)
  else match cs with
    | ']' :: rest => (bracket.add ⟨.single ']', 0⟩, skipIgnored f rest)
    | cs => (bracket, cs)

/-- Reads a class such as `[:alpha:]` behind its opening bracket; `none` if it is no such class. -/
def scanNamed (f : Flags) : List Char → Option (Option CharClass × List Char)
  | ':' :: rest => do
    let (negated, rest) := match rest with
      | '^' :: rest => (true, rest)
      | rest => (false, rest)
    let name := rest.takeWhile (· != ':')
    match rest.dropWhile (· != ':') with
    | ':' :: ']' :: rest =>
      let set ← CharClass.named? (String.ofList name)
      let members :=
        if !negated then some set
        else if f.unicode then some (.compl (f.fold set))
        else none
      return (members, rest)
    | _ => none
  | _ => none

def scanItem (f : Flags) : List Char → Option (Escape × List Char)
  | '\\' :: rest => scanEscape f rest
  | c :: rest => some (.literal c, rest)
  | [] => none

def Escape.toSet? (f : Flags) : Escape → Option CharClass
  | .literal c => if f.unicode || c.toNat < 128 then some (.single c) else none
  | .set s => some s

def rangeSet? (f : Flags) : Escape → Escape → Option CharClass
  | .literal first, .literal last =>
    if first ≤ last && (f.unicode || last.toNat < 128) then some (.range first last) else none
  | _, _ => none

/-- Reads a character, a class or a range. -/
def scanRange (f : Flags) (cs : List Char) : Option (CharClass × List Char) := do
  let (first, cs) ← scanItem f cs
  match skipIgnored f cs with
  | [] => none
  | '-' :: rest =>
    if peek f rest == some ']' || peek f rest == some '-' then
      return (← first.toSet? f, '-' :: rest)
    else
      let (last, cs) ← scanItem f (skipIgnored f rest)
      return (← rangeSet? f first last, cs)
  | cs => return (← first.toSet? f, cs)

/-- Reads brackets up to the end of the outermost one; `outer` are the brackets around the current
one, and `fuel` bounds the number of items. -/
def scanBracketFrom (f : Flags) : Nat → OpenBracket → List OpenBracket → List Char →
    Option (NestedSet × List Char)
  | 0, _, _, _ => none
  | fuel + 1, bracket, outer, cs =>
    match skipIgnored f cs with
    | [] => none
    | '[' :: rest =>
      match scanNamed f rest with
      | some (set, rest) => do scanBracketFrom f fuel (bracket.add ⟨← set, 0⟩) outer rest
      | none =>
        let (inner, rest) := scanOpen f rest
        scanBracketFrom f fuel inner (bracket :: outer) rest
    | ']' :: rest => do
      let set ← bracket.close? f
      match outer with
      | [] => return (set, rest)
      | parent :: outer => scanBracketFrom f fuel (parent.add set) outer rest
    | '&' :: '&' :: rest => scanBracketFrom f fuel (bracket.operate f .inter) outer rest
    | '-' :: '-' :: rest => scanBracketFrom f fuel (bracket.operate f .diff) outer rest
    | '~' :: '~' :: rest => scanBracketFrom f fuel (bracket.operate f .symmDiff) outer rest
    | cs => do
      let (set, rest) ← scanRange f cs
      scanBracketFrom f fuel (bracket.add ⟨set, 0⟩) outer rest

def scanBracket (f : Flags) (cs : List Char) : Option (NestedSet × List Char) :=
  let (bracket, rest) := scanOpen f cs
  scanBracketFrom f (cs.length + 1) bracket [] rest

end StackVM.Pattern
