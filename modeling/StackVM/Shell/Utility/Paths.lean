import StackVM.Shell.Utility.Basic

/-! # Utilities on paths -/

namespace StackVM.Shell.Paths

/-- A name in quotes, as messages show it. -/
def quoted (name : String) : String :=
  if name.toList.contains '\'' then "\"" ++ name ++ "\"" else "'" ++ name ++ "'"

/-- Adds a hint on how to get help. -/
def withHint (c : Call) (message : String) : String :=
  message ++ "\nTry '" ++ c.label ++ " --help' for more information."

def trimSlashes (path : List Char) : List Char :=
  match (path.reverse.dropWhile (· == '/')).reverse with
  | [] => if path.isEmpty then [] else ['/']
  | trimmed => trimmed

def baseName (path : String) : String :=
  let cs := trimSlashes path.toList
  if cs == ['/'] then "/" else String.ofList (cs.reverse.takeWhile (· != '/')).reverse

def directoryName (path : String) : String :=
  let cs := trimSlashes path.toList
  if cs == ['/'] then "/"
  else
    let start := cs.reverse.dropWhile (· != '/')
    if start.isEmpty then "." else String.ofList (trimSlashes start.reverse)

def join (directory name : String) : String :=
  if directory.endsWith "/" then directory ++ name else directory ++ "/" ++ name

/-- A name without a suffix, unless it is all there is. -/
def dropSuffix (suffix name : String) : String :=
  if !suffix.isEmpty && name.endsWith suffix && name.length != suffix.length then
    String.ofList (name.toList.take (name.length - suffix.length))
  else name

def basename (c : Call) : Report :=
  let shape : Arguments.Shape :=
    { plain := "az", valued := "s", strict := true
      long := [("multiple", 'a'), ("suffix", 's'), ("zero", 'z')] }
  c.withArguments shape 1 fun a =>
    let ending := if a.has 'z' then "\x00" else "\n"
    match a.operands with
    | [] => c.fail 1 (withHint c "missing operand")
    | first :: rest =>
      if a.has 'a' || a.has 's' then
        c.print (String.join (a.operands.map fun path =>
          dropSuffix ((a.value? 's').getD "") (baseName path) ++ ending))
      else match rest with
        | [] => c.print (baseName first ++ ending)
        | [suffix] => c.print (dropSuffix suffix (baseName first) ++ ending)
        | _ :: extra :: _ => c.fail 1 (withHint c ("extra operand " ++ quoted extra))

def dirname (c : Call) : Report :=
  c.withArguments { plain := "z", strict := true, long := [("zero", 'z')] } 1 fun a =>
    if a.operands.isEmpty then c.fail 1 (withHint c "missing operand")
    else c.print (String.join (a.operands.map fun path =>
      directoryName path ++ if a.has 'z' then "\x00" else "\n"))

/-- A place in the file tree as a path. -/
def ofPlace (place : List String) : String := encode ("/" ++ "/".intercalate place)

/-- The path without links that leads to the same place. All names but the last have to exist; with
`strict` the last one, too. -/
def canonical? (fs : Files) (strict : Bool) (path : String) : Attempt String := do
  let s ← fs.locate (decode path)
  if strict && s.entry.isNone then .error .noEntry
  else return ofPlace s.place

def readlink (c : Call) : Report :=
  let shape : Arguments.Shape :=
    { plain := "femnqsvz", long := [("canonicalize", 'f'), ("no-newline", 'n')] }
  c.withArguments shape 1 fun a =>
    let ending := if a.has 'n' && a.operands.length == 1 then "" else "\n"
    if a.operands.isEmpty then c.fail 1 (withHint c "missing operand")
    else a.operands.foldl (fun r path =>
      if a.has 'f' || a.has 'e' || a.has 'm' then
        match canonical? c.files (a.has 'e') path with
        | .ok text => r.print (text ++ ending)
        | .error _ => { r with status := 1 }
      else match c.files.entryOrLink? (decode path) with
        | some (.link target) => r.print (encode target ++ ending)
        | _ => { r with status := 1 }) c.quiet

def realpath (c : Call) : Report :=
  c.withArguments { plain := "emsqzLP" } 1 fun a =>
    if a.operands.isEmpty then c.fail 1 (withHint c "missing operand")
    else a.operands.foldl (fun r path =>
      match canonical? c.files (a.has 'e') path with
      | .ok text => r.print (text ++ "\n")
      | .error e => r.warn c.label (path ++ ": " ++ e.text) 1) c.quiet

def pwd (c : Call) : Report := c.print (ofPlace c.files.working ++ "\n")

end StackVM.Shell.Paths
