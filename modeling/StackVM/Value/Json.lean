import StackVM.Value.Basic
import StackVM.Json.Writer
import StackVM.Json.Reader

/-! # Values as JSON documents -/

namespace StackVM.Value

mutual

/-- The document of a value. Numbers that are not finite have none and become null. -/
def toJson : Value → Json
  | .null => .null
  | .bool b => .bool b
  | .num x => Json.number x.toFloat
  | .str s => .str s
  | .arr items => .arr (toJsonItems items)
  | .obj fields => .obj (toJsonFields fields)

def toJsonItems : List Value → List Json
  | [] => []
  | v :: rest => toJson v :: toJsonItems rest

def toJsonFields : List (String × Value) → List (String × Json)
  | [] => []
  | (k, v) :: rest => (k, toJson v) :: toJsonFields rest

end

mutual

/-- The value of a document; of members of one name the last one counts. -/
def ofJson : Json → Value
  | .null => .null
  | .bool b => .bool b
  | .int n => ofInt n
  | .float x => .num x
  | .str s => .str s
  | .arr items => .arr (ofJsonItems items)
  | .obj members => .obj (Record.ofList (ofJsonMembers members))

def ofJsonItems : List Json → List Value
  | [] => []
  | j :: rest => ofJson j :: ofJsonItems rest

def ofJsonMembers : List (String × Json) → List (String × Value)
  | [] => []
  | (k, j) :: rest => (k, ofJson j) :: ofJsonMembers rest

end

end StackVM.Value
