import StackVM.Record

/-! # The file tree

Directories hold entries by name. The content of a file is kept apart from the tree, under a number,
because several names may lead to one file.
-/

namespace StackVM

inductive Device where
  /-- Swallows all it is given and holds nothing. -/
  | null
  /-- Holds zeros without end. -/
  | zero
  /-- Holds zeros without end and takes nothing. -/
  | full
  /-- Holds bytes that cannot be foretold. -/
  | random
deriving DecidableEq, Repr

/-- What a name in a directory stands for. -/
inductive Entry where
  /-- A file, with the number of its body. -/
  | file (body : Nat)
  | directory (mode : Nat) (entries : List (String × Entry))
  /-- A symbolic link to a path. -/
  | link (target : String)
  /-- A named pipe, with the number of the body that holds what is in it. -/
  | pipe (body : Nat)
  | device (d : Device)
deriving Inhabited

namespace Entry

def isDirectory : Entry → Bool
  | .directory _ _ => true
  | _ => false

/-- The entry at the end of a list of names. -/
def find? : Entry → List String → Option Entry
  | e, [] => some e
  | .directory _ entries, name :: rest =>
    match Record.get? entries name with
    | some e => find? e rest
    | none => none
  | _, _ :: _ => none

/-- Puts an entry at the end of a list of names, or removes what is there. The directories on the
way have to exist. -/
def put (new : Option Entry) : Entry → List String → Entry
  | .directory mode entries, [name] =>
    .directory mode (match new with
      | some e => Record.insert entries name e
      | none => Record.erase entries name)
  | .directory mode entries, name :: rest =>
    match Record.get? entries name with
    | some e => .directory mode (Record.insert entries name (put new e rest))
    | none => .directory mode entries
  | _, [] => new.getD (.directory 0 [])
  | e, _ => e

mutual

/-- How many names in the tree lead to a body. -/
def countBody (body : Nat) : Entry → Nat
  | .file b => if b = body then 1 else 0
  | .directory _ entries => countBodies body entries
  | _ => 0

/-- How many names in a list of entries lead to a body. -/
def countBodies (body : Nat) : List (String × Entry) → Nat
  | [] => 0
  | (_, e) :: rest => countBody body e + countBodies body rest

end

end Entry

end StackVM
