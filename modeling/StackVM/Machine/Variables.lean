import StackVM.Value.Place

/-! # Variables

A store of named values. Three names are reserved for reading: the parameters of the current
subroutine or of the program, a snapshot of all variables, and the version.
-/

namespace StackVM

/-- The variables of a run. -/
structure Variables where
  /-- The stored values. -/
  store : Record Value := []
  /-- The text that the version reads as. -/
  version : String := ""
  /-- The arguments of the program. -/
  arguments : List String := []

/-- Why an insertion into a variable was refused. -/
inductive Variables.InsertError where
  | missing
  | notIterable
  | appendToRecord
  | zeroIndex
  | outOfRange
deriving DecidableEq, Repr

namespace Variables

def InsertError.message (name : String) : InsertError → String
  | .missing => "Attempted to insert into non-existent variable '" ++ name ++ "'. Ignoring!"
  | .notIterable => "Attempted to insert into non-iterable variable '" ++ name ++ "'. Ignoring!"
  | .appendToRecord => "Attempted to append to non-array variable '" ++ name ++ "'. Ignoring!"
  | .zeroIndex => "Array indexes start at 1, not 0. Insert into '" ++ name ++ "' ignored!"
  | .outOfRange => "Index out of bounds while inserting into '" ++ name ++ "'. Ignoring!"

/-- All variables as a record. -/
def snapshot (vars : Variables) : Value := .obj vars.store

/-- The arguments of the program as an array. -/
def argumentArray (vars : Variables) : Value := .arr (vars.arguments.map .str)

/-- Reads a variable; `params` are the parameters of the current subroutine. -/
def get (vars : Variables) (name : String) (params : Option Value) : Value :=
  match name with
  | "@" => params.getD vars.argumentArray
  | "_VARS" => vars.snapshot
  | "_VERSION" => .str vars.version
  | _ => (vars.store.get? name).getD .null

def set (vars : Variables) (name : String) (v : Value) : Variables :=
  { vars with store := vars.store.insert name v }

def delete (vars : Variables) (name : String) : Variables :=
  { vars with store := vars.store.erase name }

def has (vars : Variables) (name : String) : Bool := vars.store.has name

/-- Sets variables in order; null stands for missing values. -/
def setAll (vars : Variables) (names : List String) (values : List Value) : Variables :=
  names.zipIdx.foldl (fun vars (name, i) => vars.set name (values.getD i .null)) vars

/-- Appends to an array or a text. -/
def append (target new : Value) : Except InsertError Value :=
  match target with
  | .arr items => .ok (.arr (items ++ [new]))
  | .str s => .ok (.str (s ++ new.text))
  | _ => .error .appendToRecord

/-- The value of a variable after an insertion. -/
def inserted (target path new : Value) : Except InsertError Value :=
  if path.isNull then append target new
  else match path.toList with
    | [] => .ok target
    | steps =>
      match target.resolve steps with
      | .ok cursor => .ok (target.rebuild cursor new)
      | .error .zeroIndex => .error .zeroIndex
      | .error .unresolved => .error .outOfRange

def isIterable : Value → Bool
  | .arr _ | .obj _ | .str _ => true
  | _ => false

/-- Inserts a value into a variable at the end of a path; a null path appends. -/
def insertInto (vars : Variables) (name : String) (path new : Value) :
    Except InsertError Variables := do
  match vars.store.get? name with
  | none => .error .missing
  | some target =>
    if isIterable target then return vars.set name (← inserted target path new)
    else .error .notIterable

end Variables

end StackVM
