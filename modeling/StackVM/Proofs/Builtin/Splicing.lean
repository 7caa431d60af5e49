import Mathlib.Data.List.InsertIdx
import StackVM.Proofs.Builtin.Indexing

/-! # Splicing

A splice keeps a beginning and an end of the list, cut at two indexes that never cross. With one
position as both ends it replaces or deletes the item there; if it ends before it starts, it inserts.
-/

namespace StackVM.Lists

open Sequence (Addresses cutBefore cutAfter)

variable {items : List Value} {position : Int} {i : Nat} {x : Double}

section Cuts

private theorem splice_value (items : List Value) (start stop : Int) (replacement : List Value) :
    (splice items start stop replacement).value =
      .arr (items.take (cutBefore start items.length) ++ replacement ++
        items.drop (cutAfter stop (cutBefore start items.length) items.length)) := by
  unfold splice
  dsimp only
  split_ifs
  · rfl
  · rfl

/-- A stretch of one item. -/
theorem splice_of_addresses (addresses : Addresses position items.length i)
    (replacement : List Value) :
    splice items position position replacement =
      { value := .arr (items.take i ++ replacement ++ items.drop (i + 1)) } := by
  have nonzero := addresses.position_ne_zero
  have first : cutBefore position items.length = i := by
    unfold Sequence.Addresses at addresses
    unfold Sequence.cutBefore
    split_ifs <;> omega
  have last : cutAfter position i items.length = i + 1 := by
    unfold Sequence.Addresses at addresses
    unfold Sequence.cutAfter
    split_ifs <;> omega
  simp only [splice, Sequence.splice, first, last, nonzero, decide_false, Bool.or_self,
    Bool.false_eq_true, if_false]

/-- An empty stretch before a position. -/
theorem splice_before (counted : position = i + 1) (within : i ≤ items.length) (v : Value) :
    splice items position (position - 1) [v] =
      { value := .arr (items.take i ++ v :: items.drop i)
        warnings := if position = 1 then ["Array indexes start at 1, not 0."] else [] } := by
  have first : cutBefore position items.length = i := by
    unfold Sequence.cutBefore
    split_ifs <;> omega
  have last : cutAfter (position - 1) i items.length = i := by
    unfold Sequence.cutAfter
    split_ifs <;> omega
  have nonzero : position ≠ 0 := by omega
  have zero : position - 1 = 0 ↔ position = 1 := by omega
  simp only [splice, Sequence.splice, first, last, nonzero, zero, decide_false, Bool.false_or,
    decide_eq_true_eq, List.append_assoc, List.singleton_append]
  split_ifs
  · rfl
  · rfl

end Cuts

section Insertion

private theorem insertIdx_eq_take_append_drop (within : i ≤ items.length) (v : Value) :
    items.insertIdx i v = items.take i ++ v :: items.drop i := by
  induction items generalizing i with
  | nil =>
    obtain rfl : i = 0 := by simpa using within
    rfl
  | cons first rest ih =>
    cases i with
    | zero => rfl
    | succ i =>
      rw [List.insertIdx_succ_cons, ih (Nat.le_of_succ_le_succ within), List.take_succ_cons,
        List.drop_succ_cons, List.cons_append]

private theorem insert_of_counted (counted : Number.toInt x.toFloat = i + 1)
    (within : i ≤ items.length) (v : Value) :
    ListFunction.insert.apply [.arr items, .num x, v] = { value := .arr (items.insertIdx i v) } := by
  have found : Sequence.index? (Number.toInt x.toFloat) items.length = some i :=
    Sequence.index?_eq_some_iff.mpr (.inl counted)
  exact changeAt_of_index found (Nat.lt_succ_of_le within)

private theorem delete_insert (counted : Number.toInt x.toFloat = i + 1) (within : i ≤ items.length)
    (v : Value) :
    ListFunction.delete.apply [.arr (items.insertIdx i v), .num x] = { value := .arr items } := by
  have addresses : Addresses (Number.toInt x.toFloat) (items.insertIdx i v).length i := by
    rw [List.length_insertIdx_of_le_length within]
    exact ⟨Nat.lt_succ_of_le within, .inl counted⟩
  rw [(actsAt_of_addresses addresses).deletes, List.eraseIdx_insertIdx_self]

private theorem insert_delete (counted : Number.toInt x.toFloat = i + 1)
    (within : i < items.length) :
    ListFunction.insert.apply [.arr (items.eraseIdx i), .num x, items[i]] = { value := .arr items } := by
  have shorter : i ≤ (items.eraseIdx i).length := by
    rw [List.length_eraseIdx_of_lt within]
    omega
  rw [insert_of_counted counted shorter, List.insertIdx_eraseIdx_getElem within]

end Insertion

/-- Splicing generalizes replacing, deleting and inserting, and inserting and deleting undo each other.
If a number addresses an item, a splice from it to itself puts one item in its place as replacing does
and none as deleting does. If it counts from one to behind the end, a splice that ends before it
inserts, though it warns of the position zero, and deleting what was inserted restores the array. If
it counts from one within the array, so does inserting again what was deleted. Every splice leaves a
beginning and an end of the array that do not overlap, and the search for them in words does not
overflow. -/
theorem splice_generalizes (items : List Value) (x : Double) :
    let position := Number.toInt x.toFloat
    let length : Int := items.length
    (1 ≤ position ∧ position ≤ length ∨ -length ≤ position ∧ position ≤ -1 → ∀ v,
      ListFunction.splice.apply [.arr items, .num x, .num x, .arr [v]] =
        ListFunction.update.apply [.arr items, .num x, v] ∧
      ListFunction.splice.apply [.arr items, .num x, .num x, .arr []] =
        ListFunction.delete.apply [.arr items, .num x]) ∧
    (1 ≤ position ∧ position ≤ length + 1 → ∀ v,
      let inserted := ListFunction.insert.apply [.arr items, .num x, v]
      (∀ y : Double, Number.toInt y.toFloat = position - 1 →
        ListFunction.splice.apply [.arr items, .num x, .num y, .arr [v]] =
          { inserted with
            warnings := if position = 1 then ["Array indexes start at 1, not 0."] else [] }) ∧
      ListFunction.delete.apply [inserted.value, .num x] = { value := .arr items }) ∧
    (1 ≤ position ∧ position ≤ length →
      let deleted := ListFunction.delete.apply [.arr items, .num x]
      let found := BinaryOperator.arrayIndex.apply (.arr items) (.num x)
      ListFunction.insert.apply [deleted.value, .num x, found.value] = { value := .arr items }) ∧
    ∀ start stop replacement, ∃ first last, first ≤ last ∧ last ≤ items.length ∧
      (splice items start stop replacement).value =
        .arr (items.take first ++ replacement ++ items.drop last) ∧
      (Sequence.FitsWord start → Sequence.FitsWord stop → Sequence.FitsWord items.length →
        Sequence.wordCuts? start stop items.length = some (first, last)) := by
  intro position length
  refine ⟨fun occupied v => ?_, fun within v => ?_, fun within => ?_, fun start stop replacement => ?_⟩
  · obtain ⟨i, addresses⟩ : ∃ i, Addresses position items.length i := by
      rcases occupied with ⟨least, most⟩ | ⟨least, most⟩
      · exact ⟨(position - 1).toNat, by omega, by omega⟩
      · exact ⟨(length + position).toNat, by omega, by omega⟩
    have acts := actsAt_of_addresses addresses
    constructor
    · rw [acts.updates v, List.set_eq_take_cons_drop v acts.within]
      change splice items position position [v] = _
      rw [splice_of_addresses addresses, List.append_assoc, List.singleton_append]
    · rw [acts.deletes, List.eraseIdx_eq_take_drop_succ]
      change splice items position position [] = _
      rw [splice_of_addresses addresses, List.append_nil]
  · obtain ⟨i, counted⟩ : ∃ i : Nat, position = i + 1 := ⟨(position - 1).toNat, by omega⟩
    have behind : i ≤ items.length := by omega
    rw [insert_of_counted counted behind v]
    refine ⟨fun y before => ?_, delete_insert counted behind v⟩
    change splice items position (Number.toInt y.toFloat) [v] = _
    rw [before, splice_before counted behind, insertIdx_eq_take_append_drop behind]
  · obtain ⟨i, counted⟩ : ∃ i : Nat, position = i + 1 := ⟨(position - 1).toNat, by omega⟩
    have inside : i < items.length := by omega
    have acts := actsAt_of_addresses ⟨inside, .inl counted⟩
    rw [acts.deletes, acts.finds]
    exact insert_delete counted inside
  · have first := Sequence.cutBefore_le start items.length
    have last := Sequence.cutAfter_bounds stop first
    exact ⟨_, _, last.1, last.2, splice_value items start stop replacement, Sequence.wordCuts?_eq⟩

theorem splice_generalizes_letters :
    Number.toInt 2 = 2 ∧ Number.toInt 1 = 1 ∧
    ListFunction.splice.apply [.arr letters, .num 2, .num 2, .arr [.null]] =
      ListFunction.update.apply [.arr letters, .num 2, .null] ∧
    ListFunction.splice.apply [.arr letters, .num 2, .num 1, .arr [.null]] =
      { ListFunction.insert.apply [.arr letters, .num 2, .null] with warnings := [] } ∧
    ListFunction.insert.apply [(ListFunction.delete.apply [.arr letters, .num 2]).value, .num 2,
      (BinaryOperator.arrayIndex.apply (.arr letters) (.num 2)).value] = { value := .arr letters } ∧
    ∃ first last, first ≤ last ∧ last ≤ 3 ∧
      Sequence.wordCuts? Number.minInt64 Number.maxInt64 3 = some (first, last) := by
  have two : Number.toInt (2 : Double).toFloat = 2 := rfl
  have one : Number.toInt (1 : Double).toFloat = 1 := rfl
  have length : (letters.length : Int) = 3 := rfl
  obtain ⟨replaces, inserts, restores, cuts⟩ := splice_generalizes letters 2
  rw [two, length] at replaces inserts restores
  obtain ⟨first, last, ordered, within, -, found⟩ := cuts Number.minInt64 Number.maxInt64 []
  exact ⟨two, one, (replaces (by decide) .null).1, (inserts (by decide) .null).1 1 one,
    restores (by decide), first, last, ordered, within, found (by decide) (by decide) (by decide)⟩

end StackVM.Lists
