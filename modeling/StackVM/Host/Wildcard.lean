import StackVM.Host.Files
import StackVM.Pattern.Basic

/-! # Wildcards in paths

An asterisk stands for any characters, a question mark for one, brackets for one of a set. Names
that start with a dot match only a component that starts with a dot.
-/

namespace StackVM.Wildcard

/-- The component has wildcards. -/
def isWild (component : List Char) : Bool := component.any fun c => c == '*' || c == '?' || c == '['

/-- The extended notation of a component behind its opening anchor; `bracket` says that a set is
being read, and `last` is the character that was written last. -/
def extendedFrom (bracket : Bool) (last : Char) : List Char → List Char
  | [] => ['$']
  | c :: rest =>
    if bracket then
      if c == '!' && last == '[' then '^' :: extendedFrom true '^' rest
      else c :: extendedFrom (c != ']') c rest
    else match c with
      | '*' => '.' :: '*' :: extendedFrom false '*' rest
      | '?' => '.' :: extendedFrom false '.' rest
      | '[' => '[' :: extendedFrom true '[' rest
      | c => Pattern.escape c ++ extendedFrom false c rest

/-- The pattern of a component, if its sets are well formed. -/
def pattern? (component : List Char) : Option Pattern :=
  Pattern.ofExtended? ('^' :: extendedFrom false '^' component)

/-- A name within a directory. -/
def join (directory name : String) : String :=
  if directory.isEmpty || directory.endsWith "/" then directory ++ name
  else directory ++ "/" ++ name

/-- The paths that one more component leads to; nothing if the component is malformed. -/
def extend (fs : Files) (component : List Char) (paths : List String) : Option (List String) :=
  if !isWild component then some (paths.map (join · (String.ofList component)))
  else do
    let pattern ← pattern? component
    let hidden := component.head? == some '.'
    return paths.flatMap fun path =>
      let entries := (fs.list? (if path.isEmpty then "." else path)).getD []
      (entries.filter fun name =>
        (hidden || !name.startsWith ".") && pattern.accepts name).map (join path)

/-- The paths that all components lead to. -/
def extendAll (fs : Files) : List (List Char) → List String → Option (List String)
  | [], paths => some paths
  | component :: rest, paths => do extendAll fs rest (← extend fs component paths)

/-- A tilde at the start of a path stands for the home directory. -/
def expandHome (home : Option String) (path : String) : String :=
  match home, path.toList with
  | some home, '~' :: rest =>
    if rest.isEmpty || rest.head? == some '/' then home ++ String.ofList rest else path
  | _, _ => path

/-- Texts in ascending order. -/
def sortTexts (texts : List String) : List String := texts.mergeSort (· ≤ ·)

/-- The existing paths that match, in order. -/
def paths (fs : Files) (home : Option String) (path : String) : List String :=
  let path := expandHome home path
  let start := if path.startsWith "/" then "/" else ""
  let found := (extendAll fs ((Path.names path).map String.toList) [start]).getD []
  sortTexts (found.filter fun p => !p.isEmpty && fs.exists? p)

end StackVM.Wildcard
