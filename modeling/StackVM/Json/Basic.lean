import StackVM.Record
import StackVM.Number.Text

/-! # JSON documents

A document is a tree. Integers that fit 64 bits stay exact, all other numbers are floats. Members of
an object stand in the order of the text, repeated names included; `normalize` sorts them and keeps
the last member of each name.
-/

namespace StackVM

/-- A JSON document. -/
inductive Json where
  | null
  | bool (b : Bool)
  | int (n : Int)
  | float (x : Float)
  | str (s : String)
  | arr (items : List Json)
  | obj (members : List (String × Json))
deriving Inhabited

namespace Json

/-- A finite number as a document: an integer when it is written as one. -/
def number (x : Float) : Json :=
  if Number.isPlainInteger x then .int (Number.parts x).truncated
  else if Number.isFinite x then .float x
  else .null

mutual

/-- Sorts the members of every object by name; of repeated names the last one stays. -/
def normalize : Json → Json
  | .arr items => .arr (normalizeItems items)
  | .obj members => .obj (Record.ofList (normalizeMembers members))
  | other => other

def normalizeItems : List Json → List Json
  | [] => []
  | j :: rest => normalize j :: normalizeItems rest

def normalizeMembers : List (String × Json) → List (String × Json)
  | [] => []
  | (k, j) :: rest => (k, normalize j) :: normalizeMembers rest

end

end Json

end StackVM
