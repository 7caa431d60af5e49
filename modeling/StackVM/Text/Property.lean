import StackVM.Text.Blank
import StackVM.Text.Property.Age
import StackVM.Text.Property.Binary
import StackVM.Text.Property.Category
import StackVM.Text.Property.Script
import StackVM.Text.Range

/-! # Properties of characters by name

Names are compared without regard to letter case, blanks, underscores and minus signs, and a leading
`is` counts for nothing.
-/

namespace StackVM.Text.Property

/-- The form in which names are compared. The name `isc` stands for itself. -/
def plainName (name : List Char) : String :=
  let starts := match name with
    | a :: b :: _ => a.toLower == 'i' && b.toLower == 's'
    | _ => false
  let plain := ((if starts then name.drop 2 else name).filter fun c =>
    c.toNat < 0x80 && c != ' ' && c != '_' && c != '-').map Char.toLower
  String.ofList (if starts && plain == ['c'] then ['i', 's', 'c'] else plain)

def find? (table : List (List String × List String)) (name : String) : Option Ranges :=
  (table.find? fun entry => entry.1.contains name).map fun entry => Ranges.ofLines entry.2

/-- The union of categories. -/
def ofCategories (names : List String) : Ranges :=
  names.foldl (fun set name => Ranges.union set ((find? categories name).getD [])) []

/-- The categories of letters. -/
def letterNames : List String := ["lu", "ll", "lt", "lm", "lo"]

/-- The characters that are assigned. -/
def assigned (_ : Unit) : Ranges :=
  ofCategories (categories.map fun entry => entry.1.headD "")

/-- The characters of a general category, or of a group of categories. -/
def category? (name : String) : Option Ranges :=
  match name with
  | "any" => some (Ranges.compl [])
  | "ascii" => some [(0, 0x7f)]
  | "assigned" => some (assigned ())
  | "cn" | "unassigned" => some (assigned ()).compl
  | "c" | "other" => some (Ranges.union (ofCategories ["cc", "cf", "co"]) (assigned ()).compl)
  | "l" | "letter" => some (ofCategories letterNames)
  | "lc" | "casedletter" => some (ofCategories ["lu", "ll", "lt"])
  | "m" | "mark" | "combiningmark" => some (ofCategories ["mn", "mc", "me"])
  | "n" | "number" => some (ofCategories ["nd", "nl", "no"])
  | "p" | "punctuation" | "punct" =>
    some (ofCategories ["pc", "pd", "ps", "pe", "pi", "pf", "po"])
  | "s" | "symbol" => some (ofCategories ["sm", "sc", "sk", "so"])
  | "z" | "separator" => some (ofCategories ["zs", "zl", "zp"])
  | name => find? categories name

def script? (name : String) : Option Ranges := find? scripts name

/-- The characters that a script has in use. -/
def scriptInUse? (name : String) : Option Ranges := do
  let entry ← scripts.find? fun entry => entry.1.contains name
  let own := Ranges.ofLines entry.2
  match extensions.find? fun e => entry.1.contains e.1 with
  | some (_, added, taken) =>
    return Ranges.diff (Ranges.union own (Ranges.ofLines added)) (Ranges.ofLines taken)
  | none => return own

/-- The characters that were assigned in a version or before it. -/
def age? (name : String) : Option Ranges :=
  if ages.any fun entry => entry.1.contains name then
    let rest := ages.dropWhile fun entry => !entry.1.contains name
    some ((ages.take (ages.length + 1 - rest.length)).foldl
      (fun set entry => Ranges.union set (Ranges.ofLines entry.2)) [])
  else none

def lowercase (_ : Unit) : Ranges :=
  Ranges.union (ofCategories ["ll"]) (Ranges.ofLines otherLowercase)

def uppercase (_ : Unit) : Ranges :=
  Ranges.union (ofCategories ["lu"]) (Ranges.ofLines otherUppercase)

/-- What may start an identifier. -/
def identifierStart (_ : Unit) : Ranges :=
  Ranges.union (ofCategories ("nl" :: letterNames)) (Ranges.ofLines otherStart)

/-- What may stand in an identifier. -/
def identifierContinue (_ : Unit) : Ranges :=
  Ranges.union (Ranges.union (identifierStart ()) (ofCategories ["mn", "mc", "nd", "pc"]))
    (Ranges.ofLines otherContinue)

/-- What extends the character before it. -/
def extending (_ : Unit) : Ranges :=
  Ranges.union (ofCategories ["mn", "me"]) (Ranges.ofLines otherExtend)

/-- The characters with a property that they have or lack. -/
def binary? (name : String) : Option Ranges :=
  match name with
  | "lowercase" | "lower" => some (lowercase ())
  | "uppercase" | "upper" => some (uppercase ())
  | "cased" =>
    some (Ranges.union (Ranges.union (lowercase ()) (uppercase ())) (ofCategories ["lt"]))
  | "caseignorable" | "ci" =>
    some (Ranges.union (ofCategories ["mn", "me", "cf", "lm", "sk"]) (Ranges.ofLines otherIgnorable))
  | "alphabetic" | "alpha" =>
    some (Ranges.union (Ranges.union (ofCategories ("nl" :: letterNames))
      (Ranges.union (lowercase ()) (uppercase ()))) (Ranges.ofLines otherAlphabetic))
  | "math" => some (Ranges.union (ofCategories ["sm"]) (Ranges.ofLines otherMath))
  | "idstart" | "ids" => some (identifierStart ())
  | "idcontinue" | "idc" => some (identifierContinue ())
  | "xidstart" | "xids" => some (Ranges.diff (identifierStart ()) (Ranges.ofLines unstableStart))
  | "xidcontinue" | "xidc" =>
    some (Ranges.diff (identifierContinue ()) (Ranges.ofLines unstableContinue))
  | "graphemeextend" | "grext" => some (extending ())
  | "graphemebase" | "grbase" =>
    some (Ranges.diff (assigned ())
      (Ranges.union (extending ()) (ofCategories ["cc", "cf", "co", "zl", "zp"])))
  | "whitespace" | "wspace" | "space" => some blanks
  | name => find? binaries name

/-- The characters that a name alone stands for: a property, a category or a script. -/
def named? (name : List Char) : Option Ranges :=
  let name := plainName name
  binary? name <|> category? name <|> script? name

/-- The characters for which a property has a value. -/
def valued? (property value : List Char) : Option Ranges :=
  let value := plainName value
  match plainName property with
  | "gc" | "generalcategory" => category? value
  | "sc" | "script" => script? value
  | "scx" | "scriptextensions" => scriptInUse? value
  | "age" => age? value
  | _ => none

end StackVM.Text.Property
