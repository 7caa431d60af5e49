/-! # Records: finite maps from names, kept in name order

A record is a list of fields. `insert` and `erase` keep the names strictly ascending, which is what
`Sorted` says; two sorted records with the same fields are equal.
-/

namespace StackVM

/-- Fields in ascending order of their names. -/
abbrev Record (α : Type) := List (String × α)

namespace Record

variable {α β : Type}

/-- The names strictly ascend. -/
def Sorted (r : Record α) : Prop := r.Pairwise fun a b => a.1 < b.1

def get? : Record α → String → Option α
  | [], _ => none
  | (k, v) :: rest, name => if k = name then some v else get? rest name

def has (r : Record α) (name : String) : Bool := (r.get? name).isSome

/-- Sets a field, replacing the value it had. -/
def insert : Record α → String → α → Record α
  | [], name, value => [(name, value)]
  | (k, v) :: rest, name, value =>
    if name < k then (name, value) :: (k, v) :: rest
    else if name = k then (name, value) :: rest
    else (k, v) :: insert rest name value

def erase : Record α → String → Record α
  | [], _ => []
  | (k, v) :: rest, name => if k = name then rest else (k, v) :: erase rest name

/-- The record of a list of fields, a later field replacing an earlier one of the same name. -/
def ofList (fields : List (String × α)) : Record α :=
  fields.foldl (fun r f => r.insert f.1 f.2) []

def names (r : Record α) : List String := r.map (·.1)

def values (r : Record α) : List α := r.map (·.2)

end Record

end StackVM
