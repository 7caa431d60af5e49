import Mathlib.Algebra.Order.Ring.Nat
import Mathlib.Data.List.Basic
import StackVM.Builtin.ListFunction
import StackVM.Builtin.TextFunction

/-! # Pieces of a text

`Cut` says how a text is cut at the occurrences of another text, each taken as far to the left as it
can be behind the one before. Splitting finds these pieces; replacing and listing the occurrences,
which scan the text on their own, are determined by them.
-/

namespace StackVM.Text

variable {needle text : List Char} {pieces : List (List Char)}

section Cutting

/-- The text is cut into pieces at occurrences of the needle: no other one starts before the end of a
piece. -/
inductive Cut (needle : List Char) : List Char → List (List Char) → Prop where
  | whole {text : List Char} (free : ¬ needle <:+: text) : Cut needle text [text]
  | step {piece rest : List Char} {pieces : List (List Char)}
    (leftmost : ¬ needle <:+: piece ++ needle.dropLast) (others : Cut needle rest pieces) :
    Cut needle (piece ++ needle ++ rest) (piece :: pieces)

theorem Cut.ne_nil (cut : Cut needle text pieces) : pieces ≠ [] := by
  cases cut with
  | whole => exact List.cons_ne_nil _ _
  | step => exact List.cons_ne_nil _ _

theorem join_cons (separator piece : List Char) (nonempty : pieces ≠ []) :
    join separator (piece :: pieces) = piece ++ separator ++ join separator pieces := by
  obtain ⟨next, more, rfl⟩ := List.exists_cons_of_ne_nil nonempty
  rfl

private theorem Cut.join_eq (cut : Cut needle text pieces) : join needle pieces = text := by
  induction cut with
  | whole => rfl
  | step _ others ih => rw [join_cons needle _ others.ne_nil, ih]

private theorem Cut.needle_absent (cut : Cut needle text pieces) :
    ∀ piece ∈ pieces, ¬ needle <:+: piece := by
  induction cut with
  | whole free => simpa using free
  | step leftmost others ih =>
    refine List.forall_mem_cons.mpr ⟨fun inside => leftmost ?_, ih⟩
    exact inside.trans (List.prefix_append _ _).isInfix

/-- A character in front of a text is added to the first piece, unless an occurrence starts with it. -/
theorem Cut.cons {c : Char} {piece : List Char} (cut : Cut needle text (piece :: pieces))
    (elsewhere : ¬ needle <+: c :: text) : Cut needle (c :: text) ((c :: piece) :: pieces) := by
  cases cut with
  | whole free =>
    exact .whole fun inside => (List.infix_cons_iff.mp inside).elim elsewhere free
  | @step _ rest _ leftmost others =>
    rw [← List.cons_append, ← List.cons_append] at elsewhere ⊢
    refine .step (fun inside => ?_) others
    refine (List.infix_cons_iff.mp inside).elim (fun start => elsewhere ?_) leftmost
    have shorter : c :: piece ++ needle.dropLast <+: c :: piece ++ needle :=
      (List.prefix_append_right_inj _).mpr (List.dropLast_prefix needle)
    exact (start.trans shorter).trans (List.prefix_append _ rest)

end Cutting

section Scanning

private theorem startsWith_iff : startsWith text needle = true ↔ needle <+: text :=
  List.isPrefixOf_iff_prefix

theorem splitFrom_ne_nil (needle : List Char) (skip : Nat) (text : List Char) :
    splitFrom needle skip text ≠ [] := by
  fun_induction splitFrom needle skip text with
  | case1 => exact List.cons_ne_nil _ _
  | case2 skip c rest ih => exact ih
  | case3 => exact List.cons_ne_nil _ _
  | case4 => exact List.cons_ne_nil _ _
  | case5 => exact List.cons_ne_nil _ _

/-- The pieces found, once what is passed over is taken away. -/
theorem cut_splitFrom (nonempty : needle ≠ []) (skip : Nat) (text : List Char) :
    Cut needle (text.drop skip) (splitFrom needle skip text) := by
  have notInNil : ¬ needle <:+: [] := fun inside => nonempty (List.infix_nil.mp inside)
  -- An occurrence at the very start is the leftmost one: less than the needle does not hold it.
  have notInDropLast : ¬ needle <:+: [] ++ needle.dropLast := fun inside => by
    have long := inside.length_le
    have positive := List.length_pos_of_ne_nil nonempty
    rw [List.nil_append, List.length_dropLast] at long
    omega
  fun_induction splitFrom needle skip text with
  | case1 skip =>
    rw [List.drop_nil]
    exact .whole notInNil
  | case2 skip c rest ih => exact ih
  | case3 c rest found ih =>
    obtain ⟨behind, same⟩ := startsWith_iff.mp found
    have passed : rest.drop (needle.length - 1) = behind := by
      obtain ⟨first, tail, rfl⟩ := List.exists_cons_of_ne_nil nonempty
      obtain ⟨-, rfl⟩ := List.cons.inj same
      exact List.drop_left
    rw [passed] at ih
    rw [List.drop_zero, ← same]
    exact @Cut.step needle [] behind _ notInDropLast ih
  | case4 c rest absent piece more split ih =>
    rw [split] at ih
    exact ih.cons fun start => absent (startsWith_iff.mpr start)
  | case5 c rest absent split ih => exact absurd split (splitFrom_ne_nil needle 0 rest)

private theorem replaceFrom_eq_join (needle new : List Char) (skip : Nat) (text : List Char) :
    replaceFrom needle new skip text = join new (splitFrom needle skip text) := by
  fun_induction replaceFrom needle new skip text with
  | case1 skip => rw [splitFrom]; rfl
  | case2 skip c rest ih => exact ih
  | case3 c rest found ih =>
    rw [splitFrom, if_pos found, join_cons new [] (splitFrom_ne_nil _ _ _), ih, List.nil_append]
  | case4 c rest absent ih =>
    obtain ⟨piece, more, split⟩ := List.exists_cons_of_ne_nil (splitFrom_ne_nil needle 0 rest)
    rw [splitFrom, if_neg absent, ih, split]
    cases more
    · rfl
    · rfl

/-- Where the pieces of a text end, the last one apart, if the first one starts at `position` and
`width` characters stand between two. -/
def gaps (width : Nat) : Nat → List (List Char) → List Nat
  | _, [] => []
  | _, [_] => []
  | position, piece :: next :: more =>
    (position + piece.length) :: gaps width (position + piece.length + width) (next :: more)

private theorem gaps_cons (width position : Nat) (piece : List Char) (nonempty : pieces ≠ []) :
    gaps width position (piece :: pieces) =
      (position + piece.length) :: gaps width (position + piece.length + width) pieces := by
  obtain ⟨next, more, rfl⟩ := List.exists_cons_of_ne_nil nonempty
  rfl

/-- A character in front of the first piece moves its start. -/
theorem gaps_cons_cons (width position : Nat) (c : Char) (piece : List Char)
    (more : List (List Char)) :
    gaps width position ((c :: piece) :: more) = gaps width (position + 1) (piece :: more) := by
  cases more with
  | nil => rfl
  | cons next more =>
    have moved : position + (piece.length + 1) = position + 1 + piece.length := by omega
    rw [gaps, gaps, List.length_cons, moved]

private theorem occurrencesFrom_eq_gaps (nonempty : needle ≠ []) (skip position : Nat)
    (text : List Char) :
    occurrencesFrom needle skip position text =
      gaps needle.length (position + skip) (splitFrom needle skip text) := by
  fun_induction occurrencesFrom needle skip position text with
  | case1 skip position => rw [splitFrom]; rfl
  | case2 skip position c rest ih =>
    rw [ih, splitFrom, Nat.add_right_comm position 1 skip]
    rfl
  | case3 position c rest found ih =>
    have positive := List.length_pos_of_ne_nil nonempty
    have next : position + 1 + (needle.length - 1) = position + needle.length := by omega
    rw [splitFrom, if_pos found, gaps_cons _ _ _ (splitFrom_ne_nil _ _ _), ih, next]
    rfl
  | case4 position c rest absent ih =>
    obtain ⟨piece, more, split⟩ := List.exists_cons_of_ne_nil (splitFrom_ne_nil needle 0 rest)
    rw [splitFrom, if_neg absent, ih, split, gaps_cons_cons]

private theorem length_gaps (width position : Nat) (pieces : List (List Char)) :
    (gaps width position pieces).length = pieces.length - 1 := by
  fun_induction gaps width position pieces with
  | case1 => rfl
  | case2 => rfl
  | case3 position piece next more ih => simp [ih]

private theorem getElem_gaps (width position k : Nat) (inside : k + 1 < pieces.length) :
    (gaps width position pieces)[k]? =
      some (position + ((pieces.take (k + 1)).map List.length).sum + k * width) := by
  fun_induction gaps width position pieces generalizing k with
  | case1 => simp at inside
  | case2 => simp at inside
  | case3 position piece next more ih =>
    cases k with
    | zero => simp
    | succ k =>
      rw [List.getElem?_cons_succ, ih k (by simpa using inside)]
      simp [Nat.succ_mul]
      omega

end Scanning

section Builtins

variable {t d : String}

private theorem join_nil_eq_flatten (pieces : List (List Char)) :
    join [] pieces = pieces.flatten := by
  induction pieces with
  | nil => rfl
  | cons piece pieces ih =>
    cases pieces with
    | nil => rw [join, List.flatten_singleton]
    | cons next more =>
      rw [join_cons [] piece (List.cons_ne_nil next more), List.append_nil, ih]
      rfl

theorem split_of_ne_nil (nonempty : needle ≠ []) : split text needle = splitFrom needle 0 text := by
  rw [split, if_neg (mt List.isEmpty_iff.mp nonempty)]

private theorem join_split (text delimiter : List Char) :
    join delimiter (split text delimiter) = text := by
  by_cases empty : delimiter = []
  · rw [empty, split, List.isEmpty_nil, if_pos rfl, join_nil_eq_flatten]
    induction text with
    | nil => rfl
    | cons c text ih => rw [List.map_cons, List.flatten_cons, ih, List.singleton_append]
  · rw [split_of_ne_nil empty]
    exact (cut_splitFrom empty 0 text).join_eq

private theorem occurrences_eq_gaps (nonempty : needle ≠ []) (text : List Char) :
    occurrences text needle = gaps needle.length 0 (split text needle) := by
  rw [occurrences, if_neg (mt List.isEmpty_iff.mp nonempty), split_of_ne_nil nonempty]
  exact occurrencesFrom_eq_gaps nonempty 0 0 text

/-- The pieces of a text as texts. -/
def splitTexts (t d : String) : List String := (split t.toList d.toList).map String.ofList

private theorem map_toList_splitTexts (t d : String) :
    (splitTexts t d).map String.toList = split t.toList d.toList := by
  simp [splitTexts]

private theorem map_length_take_splitTexts (t d : String) (k : Nat) :
    ((splitTexts t d).take k).map String.length =
      ((split t.toList d.toList).take k).map List.length := by
  simp [splitTexts, ← List.map_take]

private theorem cut_splitTexts (nonempty : d ≠ "") (t : String) :
    Cut d.toList t.toList ((splitTexts t d).map String.toList) := by
  have chars := mt String.toList_eq_nil_iff.mp nonempty
  rw [map_toList_splitTexts, split_of_ne_nil chars]
  exact cut_splitFrom chars 0 t.toList

private theorem split_apply (t d : String) :
    TextFunction.split.apply [.str t, .str d] = { value := .arr ((splitTexts t d).map .str) } := by
  rw [splitTexts, List.map_map]
  rfl

private theorem join_apply (pieces : List String) (d : String) :
    TextFunction.join.apply [.arr (pieces.map .str), .str d] =
      { value := .str (String.ofList (join d.toList (pieces.map String.toList))) } := by
  have texts : (pieces.map Value.str).map (·.text.toList) = pieces.map String.toList := by
    rw [List.map_map]
    rfl
  rw [← texts]
  rfl

private theorem replace_apply (nonempty : d ≠ "") (t r : String) :
    TextFunction.replace.apply [.str t, .str d, .str r] =
      { value := .str (String.ofList (join r.toList (split t.toList d.toList))) } := by
  have chars := mt String.toList_eq_nil_iff.mp nonempty
  rw [split_of_ne_nil chars, ← replaceFrom_eq_join]
  change Reply.mk (.str (String.ofList (replace t.toList d.toList r.toList))) [] = _
  rw [replace, if_neg (mt List.isEmpty_iff.mp chars)]

theorem count_apply (nonempty : d ≠ "") (t : String) :
    ListFunction.count.apply [.str t, .str d] =
      { value := .ofNat ((splitTexts t d).length - 1) } := by
  have chars := mt String.toList_eq_nil_iff.mp nonempty
  change Reply.mk (.ofNat (occurrences t.toList d.toList).length) [] = _
  rw [occurrences_eq_gaps chars, length_gaps, splitTexts, List.length_map]

/-- The position of an occurrence, found from the pieces before it. -/
theorem find_apply (nonempty : d ≠ "") {n : Value} {k : Nat} (counted : n.toInt = k + 1) :
    ListFunction.find.apply [.str t, .str d, n] =
      { value := Lists.positionOf (gaps d.length 0 (split t.toList d.toList))[k]? } := by
  have chars := mt String.toList_eq_nil_iff.mp nonempty
  change Reply.mk (Lists.positionOf (occurrences t.toList d.toList)[(max n.toInt 1).toNat - 1]?) [] = _
  have index : (max n.toInt 1).toNat - 1 = k := by omega
  rw [index, occurrences_eq_gaps chars, String.length_toList]

theorem index_apply (nonempty : d ≠ "") (t : String) :
    ListFunction.index.apply [.str t, .str d] =
      { value := Lists.positionOf (gaps d.length 0 (split t.toList d.toList))[0]? } := by
  have chars := mt String.toList_eq_nil_iff.mp nonempty
  change Reply.mk (Lists.positionOf (indexOf? t.toList d.toList)) [] = _
  rw [indexOf?, if_neg (mt List.isEmpty_iff.mp chars), occurrencesFrom_eq_gaps chars, split_of_ne_nil chars,
    List.head?_eq_getElem?, String.length_toList]

/-- The builtins that look for a text in another agree. Joining what was split gives the text again,
with an empty delimiter too, which splits it into its characters. A delimiter that is not empty cuts
the text at its leftmost occurrences that do not overlap, so no piece holds it; replacing it joins the
pieces anew; it occurs once less than there are pieces; its occurrence number `k` is found behind the
first `k` pieces and the delimiters between them, counted in characters, and none is found beyond the
last; and the first of them is its index. -/
theorem substring_builtins_agree (t d : String) :
    TextFunction.join.apply [(TextFunction.split.apply [.str t, .str d]).value, .str d] =
      { value := .str t } ∧
    TextFunction.split.apply [.str t, .str ""] =
      { value := .arr (t.toList.map fun c => .str (String.singleton c)) } ∧
    (d ≠ "" → ∃ pieces : List String,
      TextFunction.split.apply [.str t, .str d] = { value := .arr (pieces.map .str) } ∧
      Cut d.toList t.toList (pieces.map String.toList) ∧
      (∀ piece ∈ pieces, ¬ d.toList <:+: piece.toList) ∧
      (∀ r : String, TextFunction.replace.apply [.str t, .str d, .str r] =
        TextFunction.join.apply [(TextFunction.split.apply [.str t, .str d]).value, .str r]) ∧
      ListFunction.count.apply [.str t, .str d] = { value := .ofNat (pieces.length - 1) } ∧
      (∀ (n : Value) (k : Nat), n.toInt = k → 1 ≤ k → k ≤ pieces.length - 1 →
        ListFunction.find.apply [.str t, .str d, n] =
          { value := .ofNat (1 + ((pieces.take k).map String.length).sum + (k - 1) * d.length) }) ∧
      (∀ (n : Value) (k : Nat), n.toInt = k → pieces.length - 1 < k →
        ListFunction.find.apply [.str t, .str d, n] = { value := .ofNat 0 }) ∧
      ListFunction.index.apply [.str t, .str d] =
        ListFunction.find.apply [.str t, .str d, .ofNat 1]) := by
  refine ⟨?_, ?_, fun nonempty => ⟨splitTexts t d, split_apply t d, ?_, ?_, fun r => ?_,
    count_apply nonempty t, fun n k counted positive within => ?_, fun n k counted beyond => ?_, ?_⟩⟩
  · rw [split_apply, join_apply, map_toList_splitTexts, join_split, String.ofList_toList]
  · simp [split_apply, splitTexts, split, Function.comp_def]
  · exact cut_splitTexts nonempty t
  · exact fun piece member =>
      (cut_splitTexts nonempty t).needle_absent piece.toList (List.mem_map_of_mem member)
  · rw [replace_apply nonempty, split_apply, join_apply, map_toList_splitTexts]
  · obtain ⟨k, rfl⟩ := Nat.exists_eq_add_of_le' positive
    have inside : k + 1 < (split t.toList d.toList).length := by
      rw [splitTexts, List.length_map] at within
      omega
    rw [find_apply nonempty (by exact_mod_cast counted), getElem_gaps _ _ _ inside,
      map_length_take_splitTexts, Lists.positionOf]
    congr 2
    rw [Nat.add_sub_cancel]
    omega
  · obtain ⟨k, rfl⟩ := Nat.exists_eq_add_of_le' (Nat.one_le_of_lt beyond)
    have none : (gaps d.length 0 (split t.toList d.toList)).length ≤ k := by
      rw [splitTexts, List.length_map] at beyond
      rw [length_gaps]
      omega
    rw [find_apply nonempty (by exact_mod_cast counted), List.getElem?_eq_none none, Lists.positionOf]
  · have one : (Value.ofNat 1).toInt = (0 : Nat) + 1 := rfl
    rw [index_apply nonempty, find_apply nonempty one]

theorem substring_builtins_agree_overlapping :
    (Value.num 2.9).toInt = 2 ∧ "éé" ≠ "" ∧
    TextFunction.split.apply [.str "éééxéé", .str "éé"] =
      { value := .arr [.str "", .str "éx", .str ""] } ∧
    ListFunction.find.apply [.str "éééxéé", .str "éé", .num 2.9] = { value := .ofNat 5 } ∧
    ListFunction.find.apply [.str "éééxéé", .str "éé", .num 3] = { value := .ofNat 0 } := by
  have two : (Value.num 2.9).toInt = (2 : Nat) := rfl
  have three : (Value.num 3).toInt = (3 : Nat) := rfl
  have nonempty : "éé" ≠ "" := by decide
  have split : TextFunction.split.apply [.str "éééxéé", .str "éé"] =
      { value := .arr (["", "éx", ""].map .str) } := by
    rfl
  obtain ⟨pieces, found, -, -, -, -, finds, misses, -⟩ :=
    (substring_builtins_agree "éééxéé" "éé").2.2 nonempty
  obtain rfl : pieces = ["", "éx", ""] := by
    have same := Value.arr.inj (Reply.mk.inj (split.symm.trans found)).1
    exact (List.map_injective_iff.mpr (fun _ _ => Value.str.inj) same).symm
  exact ⟨two, nonempty, split, finds _ 2 two (by decide) (by decide), misses _ 3 three (by decide)⟩

end Builtins

end StackVM.Text
