import Mathlib.Algebra.Order.Group.Abs
import Mathlib.Algebra.Order.Group.Int
import Mathlib.Order.Bounds.Basic
import StackVM.Builtin.TextFunction

/-! # Edit distance

The row by row computation of `distance` gives the length of a shortest sequence of edits. In between
stand the recursion `editDistance` on the first characters and `Aligned`, the pairings of the
characters of two texts: an alignment is a sequence of edits in order of their places, any sequence of
edits can be ordered in this way, and the recursion tries all alignments. The rows read both texts
from their ends, which makes no difference to alignments.
-/

namespace StackVM.Text

variable {a b c : List Char} {m n : Nat}

section Edits

/-- A single character is inserted, deleted or replaced. -/
inductive Edit : List Char → List Char → Prop
  | insert (before after : List Char) (d : Char) : Edit (before ++ after) (before ++ d :: after)
  | delete (before after : List Char) (c : Char) : Edit (before ++ c :: after) (before ++ after)
  | replace (before after : List Char) (c d : Char) :
    Edit (before ++ c :: after) (before ++ d :: after)

/-- A sequence of edits of a length turns one text into another. -/
inductive Edits : Nat → List Char → List Char → Prop
  | nil (a : List Char) : Edits 0 a a
  | cons {a b c : List Char} {n : Nat} (first : Edit a b) (rest : Edits n b c) : Edits (n + 1) a c

theorem Edit.cons (x : Char) (edit : Edit a b) : Edit (x :: a) (x :: b) := by
  cases edit with
  | insert before after d => exact .insert (x :: before) after d
  | delete before after c => exact .delete (x :: before) after c
  | replace before after c d => exact .replace (x :: before) after c d

private theorem Edits.cons_both (x : Char) (edits : Edits n a b) : Edits n (x :: a) (x :: b) := by
  induction edits with
  | nil a => exact .nil (x :: a)
  | cons first rest ih => exact .cons (first.cons x) ih

private theorem edits_zero_iff : Edits 0 a b ↔ a = b := by
  constructor
  · rintro ⟨⟩
    rfl
  · rintro rfl
    exact .nil a

end Edits

section Alignments

/-- The characters of two texts are paired in order: a pair of different ones costs one, and so does a
character without a partner. -/
inductive Aligned : List Char → List Char → Nat → Prop
  | nil : Aligned [] [] 0
  | insert {a b : List Char} {n : Nat} (d : Char) (rest : Aligned a b n) : Aligned a (d :: b) (n + 1)
  | delete {a b : List Char} {n : Nat} (c : Char) (rest : Aligned a b n) : Aligned (c :: a) b (n + 1)
  | pair {a b : List Char} {n : Nat} (c d : Char) (rest : Aligned a b n) :
    Aligned (c :: a) (d :: b) (n + if c = d then 0 else 1)

namespace Aligned

theorem refl (a : List Char) : Aligned a a 0 := by
  induction a with
  | nil => exact .nil
  | cons c a ih => simpa using pair c c ih

theorem symm (aligned : Aligned a b n) : Aligned b a n := by
  induction aligned with
  | nil => exact .nil
  | insert d rest ih => exact .delete d ih
  | delete c rest ih => exact .insert c ih
  | pair c d rest ih => simpa only [eq_comm] using pair d c ih

theorem append {a' b' : List Char} (first : Aligned a b m) (second : Aligned a' b' n) :
    Aligned (a ++ a') (b ++ b') (m + n) := by
  induction first with
  | nil => simpa using second
  | insert d rest ih =>
    rw [Nat.add_right_comm]
    exact .insert d ih
  | delete c rest ih =>
    rw [Nat.add_right_comm]
    exact .delete c ih
  | pair c d rest ih =>
    rw [Nat.add_right_comm]
    exact .pair c d ih

theorem reverse (aligned : Aligned a b n) : Aligned a.reverse b.reverse n := by
  induction aligned with
  | nil => exact .nil
  | insert d rest ih => simpa using ih.append (.insert d .nil)
  | delete c rest ih => simpa using ih.append (.delete c .nil)
  | pair c d rest ih => simpa using ih.append (.pair c d .nil)

private theorem mismatch_triangle (x d f : Char) :
    (if x = f then 0 else 1) ≤ (if x = d then 0 else 1) + if d = f then 0 else 1 := by
  by_cases same : x = d
  · rw [same, if_pos rfl, Nat.zero_add]
  · rw [if_neg same]
    split_ifs <;> omega

private theorem insertAll (front : List Char) (aligned : Aligned a b n) :
    Aligned a (front ++ b) (front.length + n) := by
  induction front with
  | nil => simpa using aligned
  | cons d front ih =>
    rw [List.length_cons, Nat.add_right_comm]
    exact .insert d ih

/-- Behind some inserted characters, the first character of the one text is deleted or has a partner
in the other. -/
theorem uncons {d : Char} (aligned : Aligned (d :: b) c n) : ∃ front rest k, Aligned b rest k ∧
    (c = front ++ rest ∧ n = front.length + (k + 1) ∨
      ∃ e, c = front ++ e :: rest ∧ n = front.length + (k + if d = e then 0 else 1)) := by
  generalize whole : d :: b = text at aligned
  induction aligned with
  | nil => cases whole
  | @insert _ c n f aligned ih =>
    obtain ⟨front, rest, k, behind, ⟨rfl, rfl⟩ | ⟨e, rfl, rfl⟩⟩ := ih whole
    · exact ⟨f :: front, rest, k, behind, .inl ⟨rfl, by rw [List.length_cons]; omega⟩⟩
    · exact ⟨f :: front, rest, k, behind, .inr ⟨e, rfl, by rw [List.length_cons]; omega⟩⟩
  | delete f behind =>
    cases whole
    exact ⟨[], _, _, behind, .inl ⟨rfl, by simp⟩⟩
  | pair f e behind =>
    cases whole
    exact ⟨[], _, _, behind, .inr ⟨e, rfl, by simp⟩⟩

/-- Alignments with a text in the middle compose. A character of the middle text without a partner on
one side leaves its partner on the other side alone, so the costs do not grow. -/
theorem trans (first : Aligned a b m) (second : Aligned b c n) : ∃ k, k ≤ m + n ∧ Aligned a c k := by
  -- where the first alignment uses up a character of the middle text, so does the second, behind
  -- the characters that it inserts before
  induction first generalizing c n with
  | nil => exact ⟨n, by omega, second⟩
  | delete x rest ih =>
    obtain ⟨k, le, aligned⟩ := ih second
    exact ⟨k + 1, by omega, .delete x aligned⟩
  | insert d rest ih =>
    obtain ⟨front, behind, k, onwards, ⟨rfl, rfl⟩ | ⟨e, rfl, rfl⟩⟩ := second.uncons
    · obtain ⟨l, le, aligned⟩ := ih onwards
      exact ⟨_, by omega, aligned.insertAll front⟩
    · obtain ⟨l, le, aligned⟩ := ih onwards
      exact ⟨front.length + (l + 1), by omega, (aligned.insert e).insertAll front⟩
  | pair x d rest ih =>
    obtain ⟨front, behind, k, onwards, ⟨rfl, rfl⟩ | ⟨e, rfl, rfl⟩⟩ := second.uncons
    · obtain ⟨l, le, aligned⟩ := ih onwards
      exact ⟨front.length + (l + 1), by omega, (aligned.delete x).insertAll front⟩
    · obtain ⟨l, le, aligned⟩ := ih onwards
      have cost := mismatch_triangle x d e
      exact ⟨_, by omega, (aligned.pair x e).insertAll front⟩

theorem length_le (aligned : Aligned a b n) : a.length ≤ b.length + n := by
  induction aligned with
  | nil => simp
  | insert d rest ih => simp only [List.length_cons]; omega
  | delete c rest ih => simp only [List.length_cons]; omega
  | pair c d rest ih => simp only [List.length_cons]; omega

/-- An alignment is a sequence of edits, made from the first character on. -/
theorem edits (aligned : Aligned a b n) : Edits n a b := by
  induction aligned with
  | nil => exact .nil []
  | @insert a b n d rest ih => exact .cons (.insert [] a d) (ih.cons_both d)
  | @delete a b n c rest ih => exact .cons (.delete [] a c) ih
  | @pair a b n c d rest ih =>
    split_ifs with same
    · rw [same]
      exact ih.cons_both d
    · exact .cons (.replace [] a c d) (ih.cons_both d)

end Aligned

private theorem Edit.aligned (edit : Edit a b) : ∃ n, n ≤ 1 ∧ Aligned a b n := by
  cases edit with
  | insert before after d =>
    exact ⟨0 + (0 + 1), le_refl 1, (Aligned.refl before).append (.insert d (.refl after))⟩
  | delete before after c =>
    exact ⟨0 + (0 + 1), le_refl 1, (Aligned.refl before).append (.delete c (.refl after))⟩
  | replace before after c d =>
    refine ⟨_, ?_, (Aligned.refl before).append (.pair c d (.refl after))⟩
    split_ifs <;> omega

/-- Edits in any order can be collected to an alignment that costs no more. -/
theorem Edits.aligned (edits : Edits n a b) : ∃ k, k ≤ n ∧ Aligned a b k := by
  induction edits with
  | nil a => exact ⟨0, le_refl 0, .refl a⟩
  | cons first rest ih =>
    obtain ⟨j, one, before⟩ := first.aligned
    obtain ⟨k, le, after⟩ := ih
    obtain ⟨l, sum, aligned⟩ := before.trans after
    exact ⟨l, by omega, aligned⟩

end Alignments

section Recursion

/-- The edit distance by recursion on the first characters. -/
def editDistance : List Char → List Char → Nat
  | [], b => b.length
  | c :: a, [] => (c :: a).length
  | c :: a, d :: b =>
    min (min (editDistance a (d :: b) + 1) (editDistance (c :: a) b + 1))
      (editDistance a b + if c = d then 0 else 1)
termination_by a b => a.length + b.length

theorem editDistance_nil_left (b : List Char) : editDistance [] b = b.length := by
  rw [editDistance]

theorem editDistance_nil_right (a : List Char) : editDistance a [] = a.length := by
  cases a with
  | nil => exact editDistance_nil_left []
  | cons c a => rw [editDistance]

theorem editDistance_cons_cons (c d : Char) (a b : List Char) :
    editDistance (c :: a) (d :: b) =
      min (min (editDistance a (d :: b) + 1) (editDistance (c :: a) b + 1))
        (editDistance a b + if c = d then 0 else 1) := by
  rw [editDistance]

private theorem editDistance_cons_left_le (c : Char) (a b : List Char) :
    editDistance (c :: a) b ≤ editDistance a b + 1 := by
  cases b with
  | nil => rw [editDistance_nil_right, editDistance_nil_right, List.length_cons]
  | cons d b =>
    rw [editDistance_cons_cons]
    omega

private theorem editDistance_cons_right_le (d : Char) (a b : List Char) :
    editDistance a (d :: b) ≤ editDistance a b + 1 := by
  cases a with
  | nil => rw [editDistance_nil_left, editDistance_nil_left, List.length_cons]
  | cons c a =>
    rw [editDistance_cons_cons]
    omega

theorem aligned_editDistance (a b : List Char) : Aligned a b (editDistance a b) := by
  fun_induction editDistance a b with
  | case1 b =>
    induction b with
    | nil => exact .nil
    | cons d b ih => exact .insert d ih
  | case2 c a =>
    induction a generalizing c with
    | nil => exact .delete c .nil
    | cons e a ih => exact .delete c (ih e)
  | case3 c a d b delete insert pair =>
    rcases min_choice (min (editDistance a (d :: b) + 1) (editDistance (c :: a) b + 1))
      (editDistance a b + if c = d then 0 else 1) with least | least
    · rw [least]
      rcases min_choice (editDistance a (d :: b) + 1) (editDistance (c :: a) b + 1) with least | least
      · rw [least]
        exact .delete c delete
      · rw [least]
        exact .insert d insert
    · rw [least]
      exact .pair c d pair

theorem Aligned.editDistance_le (aligned : Aligned a b n) : editDistance a b ≤ n := by
  induction aligned with
  | nil => rw [editDistance_nil_left, List.length_nil]
  | @insert a b n d rest ih =>
    have := editDistance_cons_right_le d a b
    omega
  | @delete a b n c rest ih =>
    have := editDistance_cons_left_le c a b
    omega
  | pair c d rest ih =>
    rw [editDistance_cons_cons]
    omega

/-- The recursion gives the length of a shortest sequence of edits. -/
theorem isLeast_editDistance (a b : List Char) : IsLeast {n | Edits n a b} (editDistance a b) := by
  constructor
  · exact (aligned_editDistance a b).edits
  · intro n edits
    obtain ⟨k, le, aligned⟩ := Edits.aligned edits
    exact aligned.editDistance_le.trans le

private theorem editDistance_comm (a b : List Char) : editDistance a b = editDistance b a :=
  le_antisymm (aligned_editDistance b a).symm.editDistance_le (aligned_editDistance a b).symm.editDistance_le

private theorem editDistance_reverse (a b : List Char) :
    editDistance a.reverse b.reverse = editDistance a b := by
  apply le_antisymm
  · exact (aligned_editDistance a b).reverse.editDistance_le
  · simpa using (aligned_editDistance a.reverse b.reverse).reverse.editDistance_le

private theorem editDistance_triangle (a b c : List Char) :
    editDistance a c ≤ editDistance a b + editDistance b c := by
  obtain ⟨k, le, aligned⟩ := (aligned_editDistance a b).trans (aligned_editDistance b c)
  exact aligned.editDistance_le.trans le

private theorem editDistance_eq_zero_iff : editDistance a b = 0 ↔ a = b := by
  constructor
  · intro zero
    exact edits_zero_iff.mp (zero ▸ (aligned_editDistance a b).edits)
  · rintro rfl
    exact Nat.le_zero.mp (Aligned.refl a).editDistance_le

private theorem editDistance_le_max (a b : List Char) :
    editDistance a b ≤ max a.length b.length := by
  fun_induction editDistance a b with
  | case1 b => exact le_max_right _ _
  | case2 c a => exact le_max_left _ _
  | case3 c a d b delete insert pair =>
    simp only [List.length_cons] at *
    split_ifs <;> omega

end Recursion

section Rows

/-- The distances of a text to the beginnings of another that reach behind `q` at least. The first text
and `q` are read backwards. -/
def cells (p q : List Char) : List Char → List Nat
  | [] => [editDistance p q]
  | d :: rest => editDistance p q :: cells p (d :: q) rest

variable {p : List Char}

private theorem length_cells (p q rest : List Char) :
    (cells p q rest).length = rest.length + 1 := by
  induction rest generalizing q with
  | nil => rfl
  | cons d rest ih => rw [cells, List.length_cons, List.length_cons, ih]

private theorem cells_eq_cons (p q rest : List Char) :
    ∃ behind, cells p q rest = editDistance p q :: behind := by
  cases rest with
  | nil => exact ⟨[], rfl⟩
  | cons d rest => exact ⟨_, rfl⟩

private theorem getElem?_cells (p q rest : List Char) :
    (cells p q rest)[rest.length]? = some (editDistance p (rest.reverse ++ q)) := by
  induction rest generalizing q with
  | nil => rfl
  | cons d rest ih =>
    rw [cells, List.length_cons, List.getElem?_cons_succ, ih, List.reverse_cons, List.append_assoc,
      List.singleton_append]

private theorem range_eq_cells (q rest : List Char) :
    List.range' q.length (rest.length + 1) = cells [] q rest := by
  induction rest generalizing q with
  | nil => rw [cells, editDistance_nil_left]; rfl
  | cons d rest ih =>
    rw [List.range'_succ, cells, editDistance_nil_left, ← ih]
    rfl

/-- Each new cell is the distance that the recursion gives from its three neighbours. -/
theorem extendRow_cells (c : Char) (p q rest : List Char) :
    editDistance (c :: p) q :: extendRow c (editDistance (c :: p) q) rest (cells p q rest) =
      cells (c :: p) q rest := by
  induction rest generalizing q with
  | nil => rfl
  | cons d rest ih =>
    obtain ⟨behind, above⟩ := cells_eq_cons p (d :: q) rest
    rw [cells, cells, above, extendRow, ← above, ← editDistance_cons_cons, ih]

private theorem nextRow_cells (c : Char) : nextRow b (cells p [] b) c = cells (c :: p) [] b := by
  obtain ⟨behind, row⟩ := cells_eq_cons p [] b
  have first : (cells p [] b).headD 0 + 1 = editDistance (c :: p) [] := by
    rw [row, List.headD_cons, editDistance_nil_right, editDistance_nil_right, List.length_cons]
  rw [nextRow, first, extendRow_cells]

private theorem foldl_nextRow (a : List Char) :
    a.foldl (nextRow b) (cells p [] b) = cells (a.reverse ++ p) [] b := by
  induction a generalizing p with
  | nil => rfl
  | cons c a ih =>
    rw [List.foldl_cons, nextRow_cells, ih, List.reverse_cons, List.append_assoc, List.singleton_append]

private theorem range_eq_first_row (b : List Char) : List.range (b.length + 1) = cells [] [] b := by
  rw [List.range_eq_range']
  exact range_eq_cells [] b

private theorem getElem?_last_row (a b : List Char) :
    (cells a.reverse [] b)[b.length]? = some (editDistance a b) := by
  rw [getElem?_cells, List.append_nil, editDistance_reverse]

private theorem distance_eq_editDistance (a b : List Char) : distance a b = editDistance a b := by
  rw [distance, range_eq_first_row, foldl_nextRow, List.append_nil, List.getLastD_eq_getLast?,
    List.getLast?_eq_getElem?, length_cells, Nat.add_sub_cancel, getElem?_last_row]
  rfl

end Rows

section InPlace

/-- Overwrites a cell, which must be there. -/
def write? (row : List Nat) (j n : Nat) : Option (List Nat) :=
  if j < row.length then some (row.set j n) else none

/-- Overwrites the cells of a row behind the index `j`, one for each character that remains. -/
def fillRow? (c : Char) (above : List Nat) : Nat → List Char → List Nat → Option (List Nat)
  | _, [], row => some row
  | j, d :: rest, row => do
    let diagonal ← above[j]?
    let up ← above[j + 1]?
    let left ← row[j]?
    let row ← write? row (j + 1) (min (min (up + 1) (left + 1)) (diagonal + if c = d then 0 else 1))
    fillRow? c above (j + 1) rest row

/-- Overwrites two rows in turn, one for each character that remains, the next one being number `i`;
the last row written is the first of the two. -/
def swapRows? (b : List Char) : Nat → List Char → List Nat → List Nat → Option (List Nat)
  | _, [], above, _ => some above
  | i, c :: rest, above, row => do
    let row ← write? row 0 (i + 1)
    let row ← fillRow? c above 0 b row
    swapRows? b (i + 1) rest row above

/-- The edit distance computed in two rows that are overwritten in turn; there is none if a cell
outside a row is read or written. -/
def distanceInPlace? (a b : List Char) : Option Nat := do
  let row ← swapRows? b 0 a (List.range (b.length + 1)) (List.replicate (b.length + 1) 0)
  row[b.length]?

/-- What stands in the row behind the index `done.length` does not matter, only how much it is. -/
theorem fillRow?_eq (c : Char) (rest : List Char) (passed ahead done stale : List Nat) (left : Nat)
    (level : passed.length = done.length) (above : ahead.length = rest.length + 1)
    (room : stale.length = rest.length) :
    fillRow? c (passed ++ ahead) done.length rest (done ++ left :: stale) =
      some (done ++ left :: extendRow c left rest ahead) := by
  induction rest generalizing passed ahead done stale left with
  | nil =>
    obtain rfl : stale = [] := List.length_eq_zero_iff.mp room
    rfl
  | cons d rest ih =>
    obtain ⟨diagonal, up, ahead, rfl⟩ : ∃ diagonal up rest, ahead = diagonal :: up :: rest := by
      rcases ahead with _ | ⟨diagonal, _ | ⟨up, ahead⟩⟩
      · cases above
      · cases above
      · exact ⟨diagonal, up, ahead, rfl⟩
    obtain ⟨old, stale, rfl⟩ := List.exists_cons_of_length_eq_add_one room
    have readDiagonal : (passed ++ diagonal :: up :: ahead)[done.length]? = some diagonal := by
      simp [← level]
    have readUp : (passed ++ diagonal :: up :: ahead)[done.length + 1]? = some up := by
      simp [← level]
    have readLeft : (done ++ left :: old :: stale)[done.length]? = some left := by
      simp
    have written (cell : Nat) : write? (done ++ left :: old :: stale) (done.length + 1) cell =
        some ((done ++ [left]) ++ cell :: stale) := by
      simp [write?]
    have filled (cell : Nat) := ih (passed ++ [diagonal]) (up :: ahead) (done ++ [left]) stale cell
      (by simp [level]) (Nat.succ.inj above) (Nat.succ.inj room)
    simp only [List.length_append, List.length_singleton, List.append_assoc, List.singleton_append]
      at filled written
    simp only [fillRow?, readDiagonal, readUp, readLeft, written, filled, extendRow,
      Option.bind_eq_bind, Option.bind_some]

private theorem swapRows?_eq (a p : List Char) (row : List Nat)
    (room : row.length = b.length + 1) :
    swapRows? b p.length a (cells p [] b) row = some (cells (a.reverse ++ p) [] b) := by
  induction a generalizing p row with
  | nil => rfl
  | cons c a ih =>
    obtain ⟨old, stale, rfl⟩ := List.exists_cons_of_length_eq_add_one room
    have first : editDistance (c :: p) [] = p.length + 1 := by
      rw [editDistance_nil_right, List.length_cons]
    have filled : fillRow? c (cells p [] b) 0 b ((p.length + 1) :: stale) = some (cells (c :: p) [] b) := by
      rw [← extendRow_cells, first]
      exact fillRow?_eq c b [] _ [] stale _ rfl (length_cells p [] b) (Nat.succ.inj room)
    have written : write? (old :: stale) 0 (p.length + 1) = some ((p.length + 1) :: stale) := by
      simp [write?]
    have others := ih (c :: p) (cells p [] b) (length_cells p [] b)
    rw [List.length_cons] at others
    simp only [swapRows?, written, filled, others, Option.bind_eq_bind, Option.bind_some,
      List.reverse_cons, List.append_assoc, List.singleton_append]

private theorem distanceInPlace?_eq (a b : List Char) :
    distanceInPlace? a b = some (distance a b) := by
  have rows := swapRows?_eq a [] (List.replicate (b.length + 1) 0) List.length_replicate
  rw [List.append_nil, List.length_nil] at rows
  rw [distanceInPlace?, range_eq_first_row, rows, Option.bind_eq_bind, Option.bind_some,
    getElem?_last_row, distance_eq_editDistance]

end InPlace

/-- The word difference of two texts is their edit distance. Computed in two rows that are overwritten
in turn, it never touches a cell outside them. It is the distance of the recursion on characters and
the length of a shortest sequence of edits; so it is zero only for equal texts, symmetric, never
longer than a detour, and between the difference and the greater of the lengths. -/
theorem wordDiff_is_edit_distance (a b : String) :
    TextFunction.wordDiff.apply [.str a, .str b] =
      { value := .ofNat (distance a.toList b.toList) } ∧
    let d := distance a.toList b.toList
    distanceInPlace? a.toList b.toList = some d ∧
    d = editDistance a.toList b.toList ∧
    IsLeast {n | Edits n a.toList b.toList} d ∧
    (d = 0 ↔ a = b) ∧
    distance b.toList a.toList = d ∧
    (∀ c : String, distance a.toList c.toList ≤ d + distance b.toList c.toList) ∧
    |(a.length : Int) - b.length| ≤ d ∧ d ≤ max a.length b.length := by
  refine ⟨rfl, ?_⟩
  intro d
  have recursive : d = editDistance a.toList b.toList := distance_eq_editDistance _ _
  refine ⟨distanceInPlace?_eq _ _, recursive, ?_, ?_, ?_, fun c => ?_, ?_, ?_⟩
  · rw [recursive]
    exact isLeast_editDistance _ _
  · rw [recursive, editDistance_eq_zero_iff, String.toList_inj]
  · rw [recursive, distance_eq_editDistance, editDistance_comm]
  · rw [recursive, distance_eq_editDistance, distance_eq_editDistance]
    exact editDistance_triangle _ _ _
  · have aligned := aligned_editDistance a.toList b.toList
    have longer := aligned.length_le
    have shorter := aligned.symm.length_le
    rw [String.length_toList, String.length_toList, ← recursive] at longer shorter
    rw [abs_le]
    omega
  · rw [recursive, ← String.length_toList, ← String.length_toList]
    exact editDistance_le_max _ _

end StackVM.Text
