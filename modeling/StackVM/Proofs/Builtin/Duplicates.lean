import StackVM.Builtin.ListFunction
import StackVM.Proofs.Sequence.Membership
import StackVM.Proofs.Value.Equality

/-! # Removing duplicates

An item is added to the result unless an equal one is there already. As equality is symmetric and
transitive, the result can be told from the list alone: it has the items that equal no item before
them (`map_firstIndexes`), and whatever is left out equals one of these (`exists_firstIndex`).
Nothing here needs an item to equal itself, so one that does not is kept wherever it stands.
-/

namespace StackVM

namespace Sequence

variable {α : Type} [BEq α] {items : List α}

/-- The indexes of the items that equal no item before them. -/
def firstIndexes (items : List α) : List (Fin items.length) :=
  (List.finRange items.length).filter fun i => !(items.take i).contains (items.get i)

private theorem pairwise_firstIndexes (items : List α) : (firstIndexes items).Pairwise (· < ·) :=
  (List.sortedLT_finRange _).pairwise.filter _

private theorem mem_firstIndexes {i : Fin items.length} :
    i ∈ firstIndexes items ↔ ∀ j < i, (items.get i == items.get j) = false := by
  have earlier : (items.take i).contains (items.get i) = true ↔
      ∃ j < i, (items.get i == items.get j) = true := by
    rw [List.contains_iff_exists_mem_beq]
    constructor
    · rintro ⟨w, member, equal⟩
      obtain ⟨j, inside, rfl⟩ := List.mem_take_iff_getElem.mp member
      obtain ⟨less, within⟩ := lt_min_iff.mp inside
      exact ⟨⟨j, within⟩, less, equal⟩
    · rintro ⟨j, less, equal⟩
      refine ⟨items.get j, List.mem_take_iff_getElem.mpr ⟨j, ?_, rfl⟩, equal⟩
      exact lt_min less j.isLt
  rw [firstIndexes, List.mem_filter, Bool.not_eq_true', ← Bool.not_eq_true, earlier]
  simp

variable [PartialEquivBEq α]

/-- One more item is kept if none of the items before it equals it, kept or not. -/
theorem unique_concat (items : List α) (v : α) :
    unique (items ++ [v]) = if items.contains v then unique items else unique items ++ [v] := by
  rw [← contains_unique, unique, List.foldl_append]
  rfl

/-- A whole run keeps each item that equals none of those before it. -/
theorem unique_eq_filter_zipIdx (items : List α) :
    unique items = (items.zipIdx.filter fun p => !(items.take p.2).contains p.1).map Prod.fst := by
  -- A run goes forward, so the list grows at its end.
  induction items using List.reverseRecOn with
  | nil => rfl
  | append_singleton items v ih =>
    -- The items before an index of `items` are the same in the longer list.
    have before : items.zipIdx.filter (fun p => !((items ++ [v]).take p.2).contains p.1) =
        items.zipIdx.filter fun p => !(items.take p.2).contains p.1 := by
      refine List.filter_congr fun p member => ?_
      have inside := (List.mem_zipIdx' member).1
      rw [List.take_append_of_le_length inside.le]
    rw [unique_concat, ih, List.zipIdx_append, List.filter_append, before, List.map_append]
    cases known : items.contains v <;> simp [known]

/-- The first occurrences are the items at the first indexes. -/
theorem map_firstIndexes (items : List α) : (firstIndexes items).map items.get = unique items := by
  have indexed : (List.finRange items.length).map (fun i => (items.get i, i.val)) = items.zipIdx := by
    refine List.ext_getElem (by simp) fun i _ _ => ?_
    simp
  rw [unique_eq_filter_zipIdx, ← indexed, List.filter_map, List.map_map]
  rfl

/-- An item that is left out equals one before it that is kept. -/
theorem exists_firstIndex {i : Fin items.length} (left : i ∉ firstIndexes items) :
    ∃ j ∈ firstIndexes items, j < i ∧ (items.get i == items.get j) = true := by
  induction i using WellFoundedLT.induction with
  | ind i ih =>
    simp only [mem_firstIndexes, not_forall, Bool.not_eq_false] at left
    obtain ⟨j, less, equal⟩ := left
    by_cases kept : j ∈ firstIndexes items
    · exact ⟨j, kept, less, equal⟩
    · obtain ⟨k, first, before, same⟩ := ih j less kept
      exact ⟨k, first, before.trans less, BEq.trans equal same⟩

/-- What equals any item equals itself. -/
theorem mem_firstIndexes_of_irreflexive {i : Fin items.length}
    (irreflexive : (items.get i == items.get i) = false) : i ∈ firstIndexes items := by
  by_contra left
  obtain ⟨j, -, -, equal⟩ := exists_firstIndex left
  rw [BEq.trans equal (BEq.symm equal)] at irreflexive
  exact Bool.false_ne_true irreflexive.symm

end Sequence

namespace Lists

open Sequence

/-- Removing the duplicates of an array, NaN anywhere. There is an ascending list of indexes such that
the result has the items at these, hence is a subsequence of the array. No item of the result equals an
earlier one; an item that is not kept equals an earlier one that is; an item is kept exactly if it
equals no earlier one, so always if it holds NaN; and removing the duplicates of the result leaves it
as it is. -/
theorem unique_keeps_first_occurrences (items : List Value) :
    ∃ kept : List (Fin items.length),
      kept.Pairwise (· < ·) ∧
      ListFunction.unique.apply [.arr items] = { value := .arr (kept.map items.get) } ∧
      (kept.map items.get).Pairwise (fun earlier later => (later == earlier) = false) ∧
      (∀ i ∉ kept, ∃ j ∈ kept, j < i ∧ (items.get i == items.get j) = true) ∧
      (∀ i, i ∈ kept ↔ ∀ j < i, (items.get i == items.get j) = false) ∧
      (∀ i, ¬(items.get i).NaNFree → i ∈ kept) ∧
      ListFunction.unique.apply [(ListFunction.unique.apply [.arr items]).value] =
        ListFunction.unique.apply [.arr items] := by
  refine ⟨firstIndexes items, pairwise_firstIndexes items, ?_, ?_, fun _ => exists_firstIndex,
    fun _ => mem_firstIndexes, fun i holds => ?_, ?_⟩
  · rw [map_firstIndexes]
    rfl
  · rw [map_firstIndexes]
    exact (distinct_unique items).imp fun different => BEq.comm.trans different
  · refine mem_firstIndexes_of_irreflexive ?_
    rwa [← Value.beq_self_iff, Bool.not_eq_true] at holds
  · change Reply.mk (.arr (unique (unique items))) [] = { value := .arr (unique items) }
    rw [unique_of_distinct (distinct_unique items)]

/-- Each NaN is kept, also within an array; of the two zeros the first. -/
example :
    ListFunction.unique.apply
        [.arr [.num Float.nan, .num (-0), .arr [.num Float.nan], .num 0, .arr [.num Float.nan]]] =
      { value := .arr [.num Float.nan, .num (-0), .arr [.num Float.nan], .arr [.num Float.nan]] } :=
  rfl

end Lists

end StackVM
