/-! # Edit distance

The least number of single-character insertions, deletions and substitutions that turn one text into
another, computed row by row: the row of a beginning of the first text holds the distances to all
beginnings of the second.
-/

namespace StackVM.Text

/-- Continues a row to the right of `left`, given the characters of the second text that remain and
the row above from the cell above `left` on. -/
def extendRow (c : Char) : Nat → List Char → List Nat → List Nat
  | left, d :: rest, diagonal :: above :: row =>
    let cell := min (min (above + 1) (left + 1)) (diagonal + if c = d then 0 else 1)
    cell :: extendRow c cell rest (above :: row)
  | _, _, _ => []

/-- The row after one more character of the first text. -/
def nextRow (b : List Char) (row : List Nat) (c : Char) : List Nat :=
  let first := row.headD 0 + 1
  first :: extendRow c first b row

def distance (a b : List Char) : Nat :=
  (a.foldl (nextRow b) (List.range (b.length + 1))).getLastD 0

end StackVM.Text
