import StackVM.Text.CaseTable

/-! # Letter case

A character may change to several when its case changes. In a whole text a capital sigma that ends a
word becomes the final form of the small letter.
-/

namespace StackVM.Text

/-- Maps a character by a table of expansions, then by a table of shifts. -/
def mapCase (expansions : List (Nat × List Nat)) (shifts : List Shift) (c : Char) : List Char :=
  match expansions.find? (·.1 == c.toNat) with
  | some (_, codes) => codes.map Char.ofNat
  | none => [Char.ofNat (shiftAll shifts c.toNat)]

def lowerChar (c : Char) : List Char := mapCase lowerExpansions lowerShifts c

def upperChar (c : Char) : List Char := mapCase upperExpansions upperShifts c

/-- The first character that is not passed over has a letter case. -/
def casedAhead (cs : List Char) : Bool :=
  match cs.dropWhile caseIgnorables.contains with
  | c :: _ => casedCharacters.contains c
  | [] => false

/-- Lowers the rest of a text, given what stands before it from the nearest character outwards. -/
def lowerAfter (before : List Char) : List Char → List Char
  | [] => []
  | c :: rest =>
    let image := if c == 'Σ' then
        [if casedAhead before && !casedAhead rest then 'ς' else 'σ']
      else lowerChar c
    image ++ lowerAfter (c :: before) rest

def lower (text : String) : String := String.ofList (lowerAfter [] text.toList)

def upper (text : String) : String := String.ofList (text.toList.flatMap upperChar)

/-- Raises the first character and lowers all others one by one. -/
def capitalize (text : String) : String :=
  match text.toList with
  | [] => ""
  | c :: rest => String.ofList (upperChar c ++ rest.flatMap lowerChar)

/-- The representative of a character when letter case is ignored. -/
def foldCode (n : Nat) : Nat := shiftAll foldShifts n

/-- The code points that differ from this character at most by letter case, itself included. -/
def caseOrbit (c : Char) : List Nat :=
  let representative := foldCode c.toNat
  representative :: preimages foldShifts representative

/-- The code points that differ from a member at most by letter case. -/
def Ranges.folded (set : Ranges) : Ranges :=
  let moves := foldShifts.flatMap Shift.moves
  let touched := moves.filterMap fun m =>
    if set.covers m.1 || set.covers m.2 then some m.2 else none
  let added := (moves.filter fun m => touched.contains m.2).flatMap fun m => [m.1, m.2]
  Ranges.union set ((added.mergeSort).map fun n => (n, n))

end StackVM.Text
