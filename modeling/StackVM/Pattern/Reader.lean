import StackVM.Pattern.Bracket
import StackVM.Pattern.Footprint

/-! # Reading the extended notation

The reader keeps the parts of the innermost open group and, for every group around it, the parts
that stand before it. Settings of flags hold up to the end of their group.
-/

namespace StackVM.Pattern

/-- A group that has been opened and not yet closed. -/
structure OpenGroup where
  index : Option Nat
  /-- The parts before the group, the last one first. -/
  before : List Node
  /-- The flags around the group. -/
  flags : Flags

/-- The state of the reader. -/
structure Reader where
  flags : Flags := {}
  /-- The parts of the innermost group, the last one first. -/
  parts : List Node := []
  /-- The open groups, the innermost first. -/
  groups : List OpenGroup := []
  /-- How many numbered groups have been opened. -/
  count : Nat := 0
  /-- The names that have been given. -/
  names : List (List Char) := []

/-- The parts one after the other, given the last one first. -/
def sequence : List Node → Node
  | [] => .empty
  | [part] => part
  | parts => .seq parts.reverse

namespace Reader

def add (r : Reader) (part : Node) : Reader := { r with parts := part :: r.parts }

/-- Repeats the last part. A setting of flags cannot be repeated. -/
def repeatLast (r : Reader) (bounds : Bounds) (lazy : Bool) : Option Reader :=
  match r.parts with
  | [] | .empty :: _ => none
  | part :: before =>
    some { r with
      parts := .repeated part bounds.least bounds.most (lazy == r.flags.swapGreed) :: before }

/-- Repeats the last part; a question mark makes the repetition lazy. -/
def scanRepeat (r : Reader) (bounds : Bounds) : List Char → Option (Reader × List Char)
  | '?' :: rest => do return (← r.repeatLast bounds true, rest)
  | cs => do return (← r.repeatLast bounds false, cs)

def openGroup (r : Reader) (index : Option Nat) (flags : Flags) : Reader :=
  { r with flags, parts := [], groups := ⟨index, r.parts, r.flags⟩ :: r.groups }

def openNumbered (r : Reader) : Reader :=
  { r.openGroup (some (r.count + 1)) r.flags with count := r.count + 1 }

/-- Opens a group with a name, which must be new. -/
def openNamed (r : Reader) (cs : List Char) : Option (Reader × List Char) := do
  let (name, rest) ← scanName [] cs
  if r.names.contains name then none
  else return ({ r.openNumbered with names := name :: r.names }, rest)

/-- Reads the start of a group behind its opening parenthesis. There is no looking ahead or back. -/
def scanGroup (r : Reader) : List Char → Option (Reader × List Char)
  | '?' :: '=' :: _ | '?' :: '!' :: _ | '?' :: '<' :: '=' :: _ | '?' :: '<' :: '!' :: _ => none
  | '?' :: 'P' :: '<' :: rest => r.openNamed rest
  | '?' :: '<' :: rest => r.openNamed rest
  | '?' :: rest => do
    let (list, rest) ← scanFlags r.flags [] true false rest
    if list.opensGroup then return (r.openGroup none list.flags, rest)
    else return ({ r.add .empty with flags := list.flags }, rest)
  | cs => some (r.openNumbered, cs)

def closeGroup (r : Reader) : Option Reader :=
  match r.groups with
  | [] => none
  | g :: groups =>
    some { r with
      flags := g.flags, groups
      parts := .group g.index (sequence r.parts) :: g.before }

/-- The condition of a circumflex. -/
def startAnchor (f : Flags) : Anchor :=
  if !f.multiLine then .textStart else if f.returnEndsLine then .lineStartReturn else .lineStart

/-- The condition of a dollar sign. -/
def endAnchor (f : Flags) : Anchor :=
  if !f.multiLine then .textEnd else if f.returnEndsLine then .lineEndReturn else .lineEnd

def step (r : Reader) : List Char → Option (Reader × List Char)
  | [] => some (r, [])
  | '(' :: rest => r.scanGroup (skipIgnored r.flags rest)
  | ')' :: rest => do return (← r.closeGroup, rest)
  | '[' :: rest => do
    let (set, rest) ← scanBracket r.flags rest
    return (r.add (.one set.set set.depth), rest)
  | '?' :: rest => r.scanRepeat ⟨0, some 1⟩ rest
  | '*' :: rest => r.scanRepeat ⟨0, none⟩ rest
  | '+' :: rest => r.scanRepeat ⟨1, none⟩ rest
  | '\x7b' :: rest => do
    let (bounds, rest) ← scanBounds r.flags rest
    r.scanRepeat bounds rest
  | '.' :: rest => do return (r.add (.one (← r.flags.dot?) 0), rest)
  | '^' :: rest => some (r.add (.anchor (startAnchor r.flags)), rest)
  | '$' :: rest => some (r.add (.anchor (endAnchor r.flags)), rest)
  | '\\' :: rest => do
    match ← scanEscape r.flags rest with
    | (.literal c, rest) => return (r.add (.one (r.flags.literal c) 0), rest)
    | (.set s, rest) => return (r.add (.one s 0), rest)
  | c :: rest => some (r.add (.one (r.flags.literal c) 0), rest)

/-- Reads all parts; every step but the last takes at least one character, so the length of the text
is enough `fuel`. -/
def readFrom : Nat → Reader → List Char → Option Reader
  | 0, r, cs => if (skipIgnored r.flags cs).isEmpty then some r else none
  | fuel + 1, r, cs =>
    match skipIgnored r.flags cs with
    | [] => some r
    | cs => do
      let (r, rest) ← r.step cs
      readFrom fuel r rest

end Reader

/-- Reads a pattern in extended notation without bars. It must be neither too deep nor too large. -/
def Node.read? (cs : List Char) : Option Node := do
  let r ← Reader.readFrom cs.length {} cs
  let root := sequence r.parts
  if r.groups.isEmpty && root.depth ≤ Node.maxDepth && root.fits then some root else none

end StackVM.Pattern
