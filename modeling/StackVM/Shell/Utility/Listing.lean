import StackVM.Shell.Permissions
import StackVM.Shell.Utility.Condition
import StackVM.Shell.Utility.Lines
import StackVM.Shell.Utility.Paths

/-! # Utilities that list files -/

namespace StackVM.Shell.Listing

open Paths (quoted withHint join baseName)

/-- A file in a listing. -/
structure Item where
  name : String
  entry : Entry

def timeOf (fs : Files) : Entry → Int
  | .file number | .pipe number => (fs.body number).time
  | _ => fs.time

/-- The number of blocks of a kibibyte that a file takes. -/
def blocksOf (fs : Files) (e : Entry) : Nat :=
  match e with
  | .file number => ((fs.body number).bytes.size + 4095) / 4096 * 4
  | .directory _ _ => 4
  | _ => 0

/-- A mark for the kind of a file behind its name. -/
def markOf (a : Arguments) (fs : Files) (e : Entry) : String :=
  match e with
  | .directory _ _ => if a.has 'F' || a.has 'p' then "/" else ""
  | .link _ => if a.has 'F' && !a.has 'l' then "@" else ""
  | .pipe _ => if a.has 'F' then "|" else ""
  | .file number => if a.has 'F' && (fs.body number).mode &&& 0o111 != 0 then "*" else ""
  | .device _ => ""

/-- A size in a column, rounded up to a unit if that is asked for. -/
def sizeText (a : Arguments) (n : Nat) : String :=
  if !a.has 'h' || n < 1024 then numeral n
  else
    let (value, unit) := [("K", 1024), ("M", 1048576), ("G", 1073741824)].foldl
      (fun best (unit, size) => if size ≤ n then (size, unit) else best) (1024, "K")
    let tenths := (n * 10 + value - 1) / value
    if tenths < 100 then numeral (tenths / 10 : Nat) ++ "." ++ numeral (tenths % 10 : Nat) ++ unit
    else numeral ((n + value - 1) / value : Nat) ++ unit

/-- Items in the order that is asked for. -/
def ordered (a : Arguments) (fs : Files) (items : List Item) : List Item :=
  let byName := items.mergeSort fun x y => x.name ≤ y.name
  let sorted :=
    if a.has 'U' || a.has 'f' then items
    else if a.has 'S' then byName.mergeSort fun x y =>
      Condition.size fs y.entry ≤ Condition.size fs x.entry
    else if a.has 't' then byName.mergeSort fun x y => timeOf fs y.entry ≤ timeOf fs x.entry
    else byName
  if a.has 'r' then sorted.reverse else sorted

/-- The lines of items. -/
def rows (a : Arguments) (fs : Files) (items : List Item) : List String :=
  let column := fun (texts : List String) => (texts.map String.length).foldl max 0
  let sizes := items.map fun x => sizeText a (Condition.size fs x.entry)
  let links := items.map fun x => numeral (fs.links x.entry)
  let (sizeWidth, linkWidth) := (column sizes, column links)
  (items.zip (sizes.zip links)).map fun (x, size, links) =>
    let blocks := if a.has 's' then numeral (blocksOf fs x.entry) ++ " " else ""
    let inode := if a.has 'i' then "1 " else ""
    let start := if !a.has 'l' && !a.has 'n' && !a.has 'g' && !a.has 'o' then ""
      else
        let owner := if a.has 'n' then "0" else "root"
        String.ofList [Permissions.kindLetter x.entry] ++ Permissions.text (fs.mode x.entry) ++ " " ++
          Lines.padLeft linkWidth links ++ " " ++ (if a.has 'g' then "" else owner ++ " ") ++
          (if a.has 'o' || a.has 'G' then "" else owner ++ " ") ++ Lines.padLeft sizeWidth size ++
          " Jan  1 00:00 "
    let target := match x.entry with
      | .link target => if a.has 'l' then " -> " ++ encode target else ""
      | _ => ""
    let name := if a.has 'Q' then "\"" ++ escaped x.name ++ "\"" else x.name
    inode ++ blocks ++ start ++ name ++ markOf a fs x.entry ++ target
where
  /-- A name with backslashes before quotes and backslashes. -/
  escaped (name : String) : String :=
    String.ofList (name.toList.flatMap fun c => if c == '"' || c == '\\' then ['\\', c] else [c])

/-- The widths of so many columns for names that are set down one column after the other, or one row
after the other. -/
def columnWidths (byRow : Bool) (count : Nat) (names : List String) : List Nat :=
  let height := (names.length + count - 1) / count
  let width := fun (column : Nat) =>
    let own := names.zipIdx.filter fun (_, i) =>
      if byRow then i % count == column else i / height == column
    own.foldl (fun n (name, _) => max n name.length) 0
  (List.range (if byRow then min count names.length else (names.length + height - 1) / height)).map
    width

/-- The room that columns of some widths take; there are two blanks between columns. -/
def columnRoom (widths : List Nat) : Nat :=
  widths.foldl (· + ·) 0 + 2 * (widths.length - 1)

/-- Fills up with blanks, up to a position; tabs are used where they fit. -/
def indent (start stop : Nat) : List Char := List.replicate (stop - start) ' '

/-- Names in as many columns as fit on a line. -/
def inColumns (byRow : Bool) (width : Nat) (names : List String) : List String :=
  let counts := (List.range names.length).reverse.map (· + 1)
  let fits := fun (count : Nat) => columnRoom (columnWidths byRow count names) < width &&
    (columnWidths byRow count names).length == count
  let count := (counts.find? fits).getD 1
  let widths := columnWidths byRow count names
  let height := (names.length + count - 1) / count
  (List.range height).map fun row =>
    let cells := (List.range count).filterMap fun column =>
      let i := if byRow then row * count + column else column * height + row
      names[i]?.map fun name => (name, widths.getD column 0)
    String.join (cells.zipIdx.map fun ((name, width), i) =>
      if i + 1 == cells.length then name
      else name ++ String.ofList (indent name.length (width + 2)))

/-- Rows in the shape that is asked for. -/
def layout (a : Arguments) (rows : List String) : String :=
  let width := ((a.value? 'w').bind fun t => Lines.count? t.toList).getD 80
  if rows.isEmpty then ""
  else if a.has 'l' || a.has '1' then unlines rows
  else if a.has 'm' then ", ".intercalate rows ++ "\n"
  else if a.has 'x' then unlines (inColumns true width rows)
  else if a.has 'C' then unlines (inColumns false width rows)
  else unlines rows

def itemsIn (a : Arguments) (mode : Nat) (entries : Record Entry) : List Item :=
  let dots := if a.has 'a' || a.has 'f' then
      [⟨".", .directory mode entries⟩, ⟨"..", .directory 0o755 []⟩] else []
  let named := entries.map fun (name, e) => ⟨encode name, e⟩
  dots ++ named.filter fun x => a.has 'a' || a.has 'A' || a.has 'f' || !x.name.startsWith "."

/-- A directory and those in it, each with its path; `fuel` bounds how deeply they are nested. -/
def below (a : Arguments) (fs : Files) : Nat → String → Nat → Record Entry →
    List (String × Nat × Record Entry)
  | 0, _, _, _ => []
  | fuel + 1, path, mode, entries =>
    let items := ordered a fs (itemsIn a mode entries)
    (path, mode, entries) :: if !a.has 'R' then [] else items.flatMap fun x =>
      match x.entry with
      | .directory mode inner =>
        if x.name == "." || x.name == ".." then [] else below a fs fuel (join path x.name) mode inner
      | _ => []

def ls (c : Call) : Report :=
  let shape : Arguments.Shape :=
    { plain := "1aAbBcCdfFgGhHiklLmnNopqQrRsStuUvxXZ", valued := "ITw"
      long := [("all", 'a'), ("almost-all", 'A'), ("directory", 'd'), ("recursive", 'R'),
        ("reverse", 'r'), ("human-readable", 'h'), ("inode", 'i'), ("size", 's'),
        ("classify", 'F'), ("color", 'b'), ("group-directories-first", 'b')] }
  c.withArguments shape 2 fun a =>
    let fs := c.files
    let operands := if a.operands.isEmpty then ["."] else a.operands
    let long := a.has 'l' || a.has 'd' || a.has 'F'
    let (items, r) := operands.foldl (fun (items, r) path =>
      let found := match (if long then fs.locateLink (decode path) else fs.locate (decode path)) with
        | .ok s => (s.entry, PathError.noEntry)
        | .error e => (none, e)
      match found with
      | (some (.link target), _) =>
        if a.has 'l' || a.has 'd' then (items ++ [⟨path, .link target⟩], r)
        else (items ++ [⟨path, (fs.entry? (decode path)).getD (.link target)⟩], r)
      | (some e, _) => (items ++ [⟨path, e⟩], r)
      | (none, e) =>
        match fs.entryOrLink? (decode path) with
        | some e => (items ++ [⟨path, e⟩], r)
        | none =>
          (items, r.warn c.label ("cannot access " ++ quoted path ++ ": " ++ e.text) 2))
      (([] : List Item), c.quiet)
    let isListed := fun (x : Item) => x.entry.isDirectory && !a.has 'd'
    let plain := ordered a fs (items.filter fun x => !isListed x)
    let directories := (ordered a fs (items.filter isListed)).flatMap fun x =>
      match x.entry with
      | .directory mode entries => below a fs 100 x.name mode entries
      | _ => []
    let titled := a.has 'R' || 1 < operands.length
    let first := layout a (rows a fs plain)
    let parts := directories.map fun (path, mode, entries) =>
      let items := ordered a fs (itemsIn a mode entries)
      let total := if a.has 'l' || a.has 's' || a.has 'n' || a.has 'g' || a.has 'o' then
          "total " ++ numeral (items.foldl (fun n x => n + blocksOf fs x.entry) 0 : Nat) ++ "\n"
        else ""
      (if titled then path ++ ":\n" else "") ++ total ++ layout a (rows a fs items)
    let parts := if plain.isEmpty then parts else first :: parts
    r.print ("\n".intercalate parts)

def kindText (fs : Files) : Entry → String
  | .file number =>
    if (fs.body number).bytes.isEmpty then "regular empty file" else "regular file"
  | .directory _ _ => "directory"
  | .link _ => "symbolic link"
  | .pipe _ => "fifo"
  | .device _ => "character special file"

/-- The bits that stand for the kind of a file. -/
def kindBits : Entry → Nat
  | .file _ => 0x8000
  | .directory _ _ => 0x4000
  | .link _ => 0xa000
  | .pipe _ => 0x1000
  | .device _ => 0x2000

/-- Fills in a format of `stat`. -/
def statText (fs : Files) (path : String) (e : Entry) : List Char → List Char
  | [] => []
  | '%' :: letter :: rest =>
    let value := match letter with
      | 'n' => path
      | 'N' => match e with
        | .link target => quoted path ++ " -> " ++ quoted (encode target)
        | _ => quoted path
      | 's' => numeral (Condition.size fs e)
      | 'a' => String.ofList (Nat.toDigits 8 (fs.mode e))
      | 'A' => String.ofList [Permissions.kindLetter e] ++ Permissions.text (fs.mode e)
      | 'f' => String.ofList (Nat.toDigits 16 (kindBits e + fs.mode e))
      | 'F' => kindText fs e
      | 'h' => numeral (fs.links e)
      | 'u' | 'g' => "0"
      | 'U' | 'G' => "root"
      | 'b' => numeral (2 * blocksOf fs e)
      | 'B' => "512"
      | 'o' => "4096"
      | '%' => "%"
      | _ => "?"
    value.toList ++ statText fs path e rest
  | c :: rest => c :: statText fs path e rest

def stat (c : Call) : Report :=
  let shape : Arguments.Shape :=
    { plain := "Lft", valued := "cP"
      long := [("format", 'c'), ("printf", 'P'), ("dereference", 'L')] }
  c.withArguments shape 1 fun a =>
    if a.operands.isEmpty then c.fail 1 (withHint c "missing operand")
    else a.operands.foldl (fun r path =>
      let entry := if a.has 'L' then c.files.entry? (decode path)
        else c.files.entryOrLink? (decode path)
      match entry with
      | none => r.warn c.label ("cannot statx " ++ quoted path ++ ": No such file or directory") 1
      | some e =>
        let usual := "  File: %n\n  Size: %s\tBlocks: %b\tIO Block: %o   %F"
        let format := ((a.value? 'c').orElse fun _ => a.value? 'P').getD usual
        r.print (String.ofList (statText c.files path e format.toList) ++
          if a.has 'P' then "" else "\n")) c.quiet

mutual

/-- The blocks of an entry and all it holds. -/
def usage (fs : Files) : Entry → Nat
  | .directory _ entries => 4 + usageAll fs entries
  | e => blocksOf fs e

/-- The blocks of entries. -/
def usageAll (fs : Files) : List (String × Entry) → Nat
  | [] => 0
  | (_, e) :: rest => usage fs e + usageAll fs rest

end

def du (c : Call) : Report :=
  c.withArguments { plain := "abchksx", valued := "d" } 1 fun a =>
    (if a.operands.isEmpty then ["."] else a.operands).foldl (fun r path =>
      match c.files.entryOrLink? (decode path) with
      | none => r.warn c.label ("cannot access " ++ quoted path ++ ": No such file or directory") 1
      | some e => r.print (numeral (usage c.files e) ++ "\t" ++ path ++ "\n")) c.quiet

end StackVM.Shell.Listing
