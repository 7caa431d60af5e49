import StackVM.Host.Entry
import StackVM.Host.PathError
import StackVM.Text.Search
import StackVM.Text.Utf8

/-! # Following paths

A path is followed name by name. All names but the last have to lead to directories, also those that
a later `..` leaves again. A symbolic link on the way is replaced by its target; one at the end is
replaced if it is to be followed or if a slash stands behind it.
-/

namespace StackVM

/-- Where a path leads. -/
structure Spot where
  /-- The names on the way from the root. -/
  place : List String
  /-- What is there. -/
  entry : Option Entry
  /-- The path ends with a name, not with a dot, two dots or the root. -/
  named : Bool
  /-- A slash follows the last name. -/
  slash : Bool

namespace Path

/-- The longest name in bytes. -/
def maxNameSize : Nat := 255

/-- No path has so many bytes. -/
def sizeLimit : Nat := 4096

/-- So many links may be followed. -/
def maxLinks : Nat := 40

def names (path : String) : List String :=
  ((Text.split path.toList ['/']).filter (!·.isEmpty)).map String.ofList

/-- The path starts at the root. -/
def isAbsolute (path : String) : Bool := path.startsWith "/"

/-- The end of a way without links, or the next link on it. -/
inductive Passage where
  | arrived (s : Spot)
  | failed (e : PathError)
  /-- The target of a link replaces its name: the way goes on at a place with the given names. -/
  | detour (place names : List String) (slash : Bool)

/-- Follows names from a place up to the next link. -/
def pass (root : Entry) (follow slash : Bool) (place : List String) : List String → Passage
  | [] => .arrived ⟨place, root.find? place, false, slash⟩
  | name :: rest =>
    if name = "." then pass root follow slash place rest
    else if name = ".." then pass root follow slash place.dropLast rest
    else if maxNameSize < Text.utf8Size name.toList then .failed .nameTooLong
    else
      let next := place ++ [name]
      match root.find? next with
      | none => if rest.isEmpty then .arrived ⟨next, none, true, slash⟩ else .failed .noEntry
      | some (.directory mode entries) =>
        if rest.isEmpty then .arrived ⟨next, some (.directory mode entries), true, slash⟩
        else pass root follow slash next rest
      | some (.link target) =>
        if rest.isEmpty && !follow && !slash then .arrived ⟨next, some (.link target), true, slash⟩
        else if target.isEmpty then .failed .noEntry
        else .detour (if isAbsolute target then [] else place) (names target ++ rest)
          (slash || rest.isEmpty && target.endsWith "/")
      | some e =>
        if rest.isEmpty && !slash then .arrived ⟨next, some e, true, slash⟩
        else .failed .notDirectory

/-- Follows names and at most so many links. -/
def passAll (root : Entry) (follow : Bool) :
    Nat → List String → List String → Bool → Except PathError Spot
  | 0, _, _, _ => .error .loop
  | links + 1, place, names, slash =>
    match pass root follow slash place names with
    | .arrived s => .ok s
    | .failed e => .error e
    | .detour place names slash => passAll root follow links place names slash

/-- Where a path leads from a working directory. -/
def locate (root : Entry) (working : List String) (follow : Bool) (path : String) :
    Except PathError Spot :=
  if path.isEmpty then .error .noEntry
  else if path.toList.contains '\x00' then .error .invalid
  else if sizeLimit ≤ Text.utf8Size path.toList then .error .nameTooLong
  else
    passAll root follow (maxLinks + 1) (if isAbsolute path then [] else working) (names path)
      (path.endsWith "/")

/-- The path and those that lead to the directories around it, the innermost first. A dot counts
only at the start of a path. -/
def ancestors (path : String) : List String :=
  let all := names path
  let start := if isAbsolute path then "/" else ""
  let kept := match all with
    | "." :: rest => if isAbsolute path then rest.filter (· != ".") else "." :: rest.filter (· != ".")
    | all => all.filter (· != ".")
  path :: ((List.range kept.length).reverse.filterMap fun n =>
    if n == 0 && start.isEmpty then none
    else some (start ++ "/".intercalate (kept.take n)))

end Path

end StackVM
