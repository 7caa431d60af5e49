import StackVM.Pattern.Reader
import StackVM.Pattern.Matcher

/-! # Patterns

A pattern is expanded and then read between anchors to the start and the end of the text.
-/

namespace StackVM

/-- A pattern that can be matched: its automaton and the number of its groups. -/
structure Pattern where
  automaton : Pattern.Automaton
  groups : Nat

namespace Pattern

def ofNode (n : Node) : Pattern := ⟨n.automaton, n.groupCount⟩

/-- The pattern of its extended notation, if that is well formed. -/
def ofExtended? (extended : List Char) : Option Pattern := (Node.read? extended).map ofNode

/-- Puts the extended notation of a pattern between anchors. -/
def anchored (extended : List Char) : List Char := "^(?:".toList ++ extended ++ ")$".toList

/-- The pattern of its text, if the text is well formed. -/
def ofText? (pattern : String) : Option Pattern := ofExtended? (anchored (expand pattern.toList))

def accepts (p : Pattern) (text : String) : Bool :=
  (p.automaton.firstMatch? text.toList.toArray).isSome

/-- What the pattern and its groups match; nothing if the pattern does not match. -/
def matched (p : Pattern) (text : String) : List String :=
  let cs := text.toList.toArray
  match p.automaton.firstMatch? cs with
  | some o => o.texts cs p.groups
  | none => []

/-- What a pattern and its groups match in a text; nothing if the pattern is malformed or does not
match. -/
def matchText (text pattern : String) : List String :=
  match ofText? pattern with
  | some p => p.matched text
  | none => []

end Pattern

end StackVM
