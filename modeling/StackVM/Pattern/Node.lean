import StackVM.Pattern.CharClass

/-! # The structure of a pattern -/

namespace StackVM.Pattern

inductive Anchor where
  | textStart
  | textEnd
  | lineStart
  | lineEnd
  /-- As `lineStart`, where a carriage return also ends a line. -/
  | lineStartReturn
  /-- As `lineEnd`, where a carriage return also ends a line. -/
  | lineEndReturn
deriving DecidableEq, Repr

/-- A part of a pattern. -/
inductive Node where
  /-- Matches the empty text. -/
  | empty
  /-- Matches one character of a set; `depth` says how deeply the brackets of the set are nested. -/
  | one (set : CharClass) (depth : Nat)
  /-- Matches the empty text where the condition holds. -/
  | anchor (a : Anchor)
  /-- Matches the items one after the other. -/
  | seq (items : List Node)
  /-- Matches the body and, if it has a number, remembers what the body matched. -/
  | group (index : Option Nat) (body : Node)
  /-- Matches the body several times, as often as possible if it is greedy. -/
  | repeated (body : Node) (least : Nat) (most : Option Nat) (greedy : Bool)

namespace Node

mutual

/-- No text but the empty one can match. -/
def onlyEmpty : Node → Bool
  | .empty => true
  | .one _ _ => false
  | .anchor _ => true
  | .seq items => onlyEmptyAll items
  | .group _ body => onlyEmpty body
  | .repeated body _ most _ => onlyEmpty body || most == some 0

/-- All items match only the empty text. -/
def onlyEmptyAll : List Node → Bool
  | [] => true
  | item :: rest => onlyEmpty item && onlyEmptyAll rest

end

/-- The bounds of a repetition: what matches only the empty text is not tried twice. -/
def bounds (body : Node) (least : Nat) (most : Option Nat) : Nat × Option Nat :=
  if body.onlyEmpty then (min least 1, some ((most.map (min 1)).getD 1)) else (least, most)

mutual

/-- The greatest number of a group; a group within a repetition of zero times does not count. -/
def groupCount : Node → Nat
  | .empty | .one _ _ | .anchor _ => 0
  | .seq items => groupCountAll items
  | .group index body => max (index.getD 0) (groupCount body)
  | .repeated body _ most _ => if most == some 0 then 0 else groupCount body

/-- The greatest number of a group in the items. -/
def groupCountAll : List Node → Nat
  | [] => 0
  | item :: rest => max (groupCount item) (groupCountAll rest)

end

mutual

/-- How deeply the parts are nested. -/
def depth : Node → Nat
  | .empty | .anchor _ => 0
  | .one _ depth => depth
  | .seq items => depthAll items + 1
  | .group _ body => depth body + 1
  | .repeated body _ _ _ => depth body + 1

def depthAll : List Node → Nat
  | [] => 0
  | item :: rest => max (depth item) (depthAll rest)

end

def maxDepth : Nat := 250

end Node

end StackVM.Pattern
