import StackVM.Record
import StackVM.Number.Text
import StackVM.Number.Reading
import StackVM.Text.Blank

/-! # Values

The dynamic values of the machine and their coercions, all of them total: truth, number, text, list
and record. Equality compares numbers numerically, so NaN differs from itself and the zeros are
equal.
-/

namespace StackVM

/-- A value of the machine. -/
inductive Value where
  | null
  | bool (b : Bool)
  | num (x : Double)
  | str (s : String)
  | arr (items : List Value)
  | obj (fields : List (String × Value))
deriving Inhabited

namespace Value

mutual

/-- Structural equality with numeric comparison of numbers. -/
def beq : Value → Value → Bool
  | .null, .null => true
  | .bool a, .bool b => a == b
  | .num a, .num b => a.toFloat == b.toFloat
  | .str a, .str b => a == b
  | .arr a, .arr b => beqItems a b
  | .obj a, .obj b => beqFields a b
  | _, _ => false

def beqItems : List Value → List Value → Bool
  | [], [] => true
  | a :: as, b :: bs => beq a b && beqItems as bs
  | _, _ => false

def beqFields : List (String × Value) → List (String × Value) → Bool
  | [], [] => true
  | (j, a) :: as, (k, b) :: bs => j == k && beq a b && beqFields as bs
  | _, _ => false

end

instance : BEq Value := ⟨beq⟩

mutual

/-- The names of every record within the value strictly ascend. -/
def Sorted : Value → Prop
  | .arr items => SortedItems items
  | .obj fields => Record.Sorted fields ∧ SortedFields fields
  | _ => True

def SortedItems : List Value → Prop
  | [] => True
  | v :: rest => Sorted v ∧ SortedItems rest

def SortedFields : List (String × Value) → Prop
  | [] => True
  | (_, v) :: rest => Sorted v ∧ SortedFields rest

end

def ofNat (n : Nat) : Value := .num (Number.ofNat n)

def ofInt (n : Int) : Value := .num (Number.ofInt n)

def isNull : Value → Bool
  | .null => true
  | _ => false

def typeName : Value → String
  | .null => "null"
  | .bool _ => "boolean"
  | .num _ => "number"
  | .str _ => "string"
  | .arr _ => "array"
  | .obj _ => "object"

/-- Truth: zero, the empty text, the empty containers and null are false. -/
def truthy : Value → Bool
  | .null => false
  | .bool b => b
  | .num x => x.toFloat != 0
  | .str s => !s.isEmpty
  | .arr items => !items.isEmpty
  | .obj fields => !fields.isEmpty

/-- The number of a value; a text that is no numeral counts as zero. -/
def toDouble : Value → Double
  | .num x => x
  | .bool b => if b then 1.0 else 0.0
  | .str s => (Number.read? (Text.trim s)).getD 0.0
  | _ => 0.0

/-- The number of a value, where the sign of a NaN does not count. -/
def toNumber (v : Value) : Float := v.toDouble.toFloat

def toInt (v : Value) : Int := Number.toInt v.toNumber

mutual

/-- The text of a value: items and fields are separated by single spaces, null is empty. -/
def text : Value → String
  | .null => ""
  | .bool b => if b then "1" else "0"
  | .num x => Number.text x.toFloat
  | .str s => s
  | .arr items => " ".intercalate (textItems items)
  | .obj fields => " ".intercalate (textFields fields)

def textItems : List Value → List String
  | [] => []
  | v :: rest => text v :: textItems rest

/-- The texts of the fields, name and value separated by a space. -/
def textFields : List (String × Value) → List String
  | [] => []
  | (k, v) :: rest => (k ++ " " ++ text v) :: textFields rest

end

/-- Names and values of a record, alternating. -/
def unfold (fields : List (String × Value)) : List Value :=
  fields.flatMap fun (k, v) => [.str k, v]

/-- The value as a list: a record gives names and values in turn, a scalar itself. -/
def toList : Value → List Value
  | .null => []
  | .arr items => items
  | .obj fields => unfold fields
  | scalar => [scalar]

mutual

/-- The texts of all scalars and names within a value, in order; nulls leave no trace. -/
def words : Value → List String
  | .null => []
  | .arr items => wordsItems items
  | .obj fields => wordsFields fields
  | scalar => [scalar.text]

def wordsItems : List Value → List String
  | [] => []
  | v :: rest => words v ++ wordsItems rest

def wordsFields : List (String × Value) → List String
  | [] => []
  | (k, v) :: rest => k :: words v ++ wordsFields rest

end

mutual

/-- How many scalars, names and containers a value is made of. -/
def weight : Value → Nat
  | .arr items => weightItems items + 1
  | .obj fields => weightFields fields + 1
  | _ => 1

def weightItems : List Value → Nat
  | [] => 0
  | v :: rest => weight v + weightItems rest

def weightFields : List (String × Value) → Nat
  | [] => 0
  | (_, v) :: rest => 1 + weight v + weightFields rest

end

theorem weight_pos (v : Value) : 0 < v.weight := by
  cases v <;> simp [weight]

theorem weightItems_lt_cons (v : Value) (rest : List Value) :
    weightItems rest < weightItems (v :: rest) :=
  Nat.lt_add_of_pos_left v.weight_pos

theorem weightItems_unfold (fields : List (String × Value)) :
    weightItems (unfold fields) = weightFields fields := by
  induction fields with
  | nil => rfl
  | cons f rest ih =>
    change 1 + (weight f.2 + weightItems (unfold rest)) = _
    rw [ih, weightFields, Nat.add_assoc]

/-- All scalars within the items, in order; a record counts as its names and values in turn. -/
def flattenItems : List Value → List Value
  | [] => []
  | .null :: rest => flattenItems rest
  | .arr inner :: rest => flattenItems inner ++ flattenItems rest
  | .obj fields :: rest => flattenItems (unfold fields) ++ flattenItems rest
  | scalar :: rest => scalar :: flattenItems rest
termination_by items => weightItems items
decreasing_by
  · exact weightItems_lt_cons _ _
  · rw [weightItems, weight]
    omega
  · exact weightItems_lt_cons _ _
  · rw [weightItems, weight, weightItems_unfold]
    omega
  · exact weightItems_lt_cons _ _
  · exact weightItems_lt_cons _ _

/-- All scalars and names within a value, in order. -/
def flatten (v : Value) : List Value := flattenItems v.toList

/-- Items numbered from one. -/
def numbered (items : List Value) : List (String × Value) :=
  items.zipIdx.map fun (v, i) => (Number.integerText (i + 1), v)

/-- The value as a record: items are named by their positions, scalars give nothing. -/
def toRecord : Value → Record Value
  | .obj fields => fields
  | .arr items => Record.ofList (numbered items)
  | _ => []

end Value

end StackVM
