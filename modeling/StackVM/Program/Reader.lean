import StackVM.Program.Basic
import StackVM.Value.Json
import StackVM.Json.Skip
import StackVM.Text.Quoted

/-! # Reading a program

A program is a JSON object with the members `version`, `instructions` and `constants`, in any order,
or a list of these three. An instruction is a list of integers or an object with named integers. The
document is read from left to right, so that of two faults the first one is reported.
-/

namespace StackVM.Program

open Json

/-- The description of a value that has the wrong type. -/
def describeFound : Json → String
  | .null => "null"
  | .bool b => if b then "boolean `true`" else "boolean `false`"
  | .int n => "integer `" ++ Number.integerText n ++ "`"
  | .float x => "floating point `" ++ Number.jsonText x ++ "`"
  | .str s => "string " ++ Text.quote s
  | .arr _ => "sequence"
  | .obj _ => "map"

/-- The failure of a value that has the wrong type: after a scalar, before a bracket. -/
def wrongType (expected : String) (cs : List Char) : Failure :=
  match cs with
  | '[' :: _ => .here (.wrongType "sequence" expected) cs
  | '\x7b' :: _ => .here (.wrongType "map" expected) cs
  | _ =>
    match readWith none cs with
    | .ok (j, rest) => .here (.wrongType (describeFound j) expected) rest
    | .error f => f

def int64? : Json → Option Int
  | .int n => if Instruction.fitsInt64 n then some n else none
  | _ => none

/-- The value of a member that occurs at most once and holds a 64-bit integer. -/
def intMember? (members : List (String × Json)) (name : String) : Option (Option Int) :=
  match members.filter (·.1 == name) with
  | [] => some none
  | [(_, j)] => (int64? j).map some
  | _ => none

/-- The instruction of a document, if it has the right shape. -/
def instruction? : Json → Option Instruction
  | .arr items => do
    let numbers ← items.mapM int64?
    let at' := fun i => (numbers[i]?).getD 0
    return Instruction.ofNumbers (at' 0) (at' 1) (at' 2) (at' 3)
  | .obj members => do
    let opcode ← intMember? members "opcode"
    let operand0 ← intMember? members "operand_0"
    let operand1 ← intMember? members "operand_1"
    let line ← intMember? members "line_no"
    let opcode ← opcode
    return Instruction.ofNumbers opcode (operand0.getD 0) (operand1.getD 0) (line.getD 0)
  | _ => none

/-- Where the failure of an item is reported: after the bracket or comma that follows it. -/
def afterItem (cs : List Char) : List Char :=
  match skipBlanks cs with
  | ']' :: rest => rest
  | ',' :: rest => skipBlanks rest
  | rest => rest

/-- Where the failure of a member is reported: after the brace that follows it, if one does. -/
def afterMember (cs : List Char) : List Char :=
  match skipBlanks cs with
  | '\x7d' :: rest => rest
  | rest => rest

def readInstruction (depth : Nat) (cs : List Char) : Except Failure (Instruction × List Char) := do
  let (j, rest) ← readValue depth cs
  match instruction? j with
  | some i => return (i, rest)
  | none => .error (.here (.noVariant "RawInstruction") (afterItem rest))

def readConstant (depth : Nat) (cs : List Char) : Except Failure (Value × List Char) := do
  let (j, rest) ← readValue depth cs
  return (Value.ofJson j, rest)

/-- Reads a list with the given reader for its items. -/
def readList {α : Type} (item : List Char → Scan α) (cs : List Char) :
    Except Failure (List α × List Char) :=
  match skipBlanks cs with
  | [] => .error (.here .endInValue [])
  | '[' :: rest => readItems item (rest.length + 1) true rest
  | other => .error (wrongType "a sequence" other)

def readVersion (cs : List Char) : Except Failure (Option String × List Char) :=
  match skipBlanks cs with
  | [] => .error (.here .endInValue [])
  | 'n' :: rest => do
    let rest ← scanWord "ull".toList rest
    return (none, rest)
  | '"' :: rest => do
    let (text, rest) ← scanString rest
    return (some (String.ofList text), rest)
  | other => .error (wrongType "a string" other)

/-- The members of a program read so far. -/
structure Draft where
  version : Option (Option String) := none
  instructions : Option (List Instruction) := none
  constants : Option (List Value) := none

/-- Brackets that may still be opened inside the lists of a program. -/
def itemDepth : Nat := maxDepth - 2

def readInstructions (cs : List Char) : Except Failure (List Instruction × List Char) :=
  readList (readInstruction itemDepth) cs

def readConstants (cs : List Char) : Except Failure (List Value × List Char) :=
  readList (readConstant itemDepth) cs

/-- Refuses a second member of a name. -/
def once {α : Type} (seen : Option α) (name : String) (cs : List Char) : Except Failure Unit :=
  if seen.isSome then .error (.here (.duplicateField name) (afterMember cs)) else .ok ()

/-- Reads one member whose key has been read. -/
def readMember (draft : Draft) (key : String) (cs : List Char) :
    Except Failure (Draft × List Char) := do
  if key == "version" then
    once draft.version key cs
    let (v, rest) ← readVersion (← skipColon cs)
    return ({ draft with version := some v }, rest)
  else if key == "instructions" then
    once draft.instructions key cs
    let (v, rest) ← readInstructions (← skipColon cs)
    return ({ draft with instructions := some v }, rest)
  else if key == "constants" then
    once draft.constants key cs
    let (v, rest) ← readConstants (← skipColon cs)
    return ({ draft with constants := some v }, rest)
  else
    let rest ← skipValue (← skipColon cs)
    return (draft, rest)

/-- The program of its members; there must be instructions. -/
def Draft.finish (draft : Draft) (rest : List Char) : Except Failure (Program × List Char) :=
  match draft.instructions with
  | none => .error (.here (.missingField "instructions") rest)
  | some instructions =>
    .ok (⟨draft.version.join, instructions.toArray, (draft.constants.getD []).toArray⟩, rest)

/-- Reads the members of a program up to and including the closing brace. -/
def readDraft : Nat → Bool → Draft → List Char → Except Failure (Program × List Char)
  | 0, _, _, cs => .error (.here .endInObject cs)
  | fuel + 1, first, draft, cs => do
    match ← nextKey first cs with
    | .close rest => draft.finish rest
    | .item start =>
      let (key, rest) ← scanString start
      let (draft, rest) ← readMember draft (String.ofList key) rest
      readDraft fuel false draft rest

def closeTuple {α : Type} (a : α) (cs : List Char) : Except Failure (α × List Char) :=
  match skipBlanks cs with
  | [] => .error (.here .endInList [])
  | ']' :: rest => .ok (a, rest)
  | ',' :: rest =>
    match skipBlanks rest with
    | ']' :: rest => .error (.next .trailingComma (']' :: rest))
    | rest => .error (.next .trailingCharacters rest)
  | other => .error (.next .trailingCharacters other)

/-- Reads the list form of a program after its opening bracket. -/
def readTuple (cs : List Char) : Except Failure (Program × List Char) := do
  let tooShort := Cause.tooShort 1 "struct Program with 3 elements"
  match ← nextItem true cs with
  | .close rest => .error (.here tooShort rest)
  | .item start =>
    let (version, rest) ← readVersion start
    match ← nextItem false rest with
    | .close rest => .error (.here tooShort rest)
    | .item start =>
      let (instructions, rest) ← readInstructions start
      match ← nextItem false rest with
      | .close rest => return (⟨version, instructions.toArray, #[]⟩, rest)
      | .item start =>
        let (constants, rest) ← readConstants start
        closeTuple ⟨version, instructions.toArray, constants.toArray⟩ rest

def readProgram (cs : List Char) : Except Failure (Program × List Char) :=
  match skipBlanks cs with
  | [] => .error (.here .endInValue [])
  | '[' :: rest => readTuple rest
  | '\x7b' :: rest => readDraft (rest.length + 1) true {} rest
  | other => .error (wrongType "struct Program" other)

/-- Reads a whole text as a program. -/
def readChars (text : List Char) : Except Failure Program := do
  let (p, rest) ← readProgram text
  finish p rest

/-- Why a program cannot be loaded. -/
inductive LoadError where
  | unreadable (path reason : String)
  | malformed (description : String)
deriving DecidableEq, Repr

def LoadError.message : LoadError → String
  | .unreadable path reason => s!"cannot read {path}: {reason}"
  | .malformed description => s!"malformed bytecode: {description}"

def ofText (text : String) : Except LoadError Program :=
  match readChars text.toList with
  | .ok p => .ok p
  | .error f => .error (.malformed (f.describe text.toList))

end StackVM.Program
