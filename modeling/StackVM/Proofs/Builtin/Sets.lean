import StackVM.Builtin.SetFunction
import StackVM.Proofs.Sequence.Membership
import StackVM.Proofs.Value.Equality

/-! # The set builtins

On arrays without NaN the set builtins obey the identities of sets, order and repetitions included.
The subset test alone does not treat its operands as sets: it refuses an array that is longer than
the other, even if it is so only because items are repeated.
-/

namespace StackVM.SetFunction

open Sequence (Distinct)

variable {a b : List Value}

private theorem reflexive_of_nanFree (free : ∀ v ∈ a, v.NaNFree) : ∀ v ∈ a, (v == v) = true :=
  fun v member => (Value.beq_self_iff v).mpr (free v member)

private theorem array_eq_iff {items others : List Value} :
    ({ value := .arr items } : Reply) = { value := .arr others } ↔ items = others := by
  simp

private theorem truth_eq_iff {b : Bool} :
    ({ value := .bool b } : Reply) = { value := .bool true } ↔ b = true := by
  simp

/-- The set builtins on arrays without NaN. Union keeps the first occurrences of both arrays; what an
array shares with another is what is left of it without what it has beyond the other; the symmetric
difference holds what either array has beyond the other, and its first occurrences are those of the
union that the arrays do not share. Arrays are disjoint exactly if they share nothing, exactly if
nothing is taken away from the first, and in either order. -/
theorem set_identities (a b : List Value) (freeA : ∀ v ∈ a, v.NaNFree) (freeB : ∀ v ∈ b, v.NaNFree) :
    union.apply [.arr a, .arr b] =
      ListFunction.unique.apply [(ListFunction.append.apply [.arr a, .arr b]).value] ∧
    intersection.apply [.arr a, .arr b] =
      ListFunction.unique.apply
        [(difference.apply [.arr a, (difference.apply [.arr a, .arr b]).value]).value] ∧
    symmetricDifference.apply [.arr a, .arr b] =
      ListFunction.append.apply
        [(difference.apply [.arr a, .arr b]).value, (difference.apply [.arr b, .arr a]).value] ∧
    ListFunction.unique.apply [(symmetricDifference.apply [.arr a, .arr b]).value] =
      difference.apply
        [(union.apply [.arr a, .arr b]).value, (intersection.apply [.arr a, .arr b]).value] ∧
    (isDisjoint.apply [.arr a, .arr b] = { value := .bool true } ↔
      intersection.apply [.arr a, .arr b] = { value := .arr [] }) ∧
    (isDisjoint.apply [.arr a, .arr b] = { value := .bool true } ↔
      difference.apply [.arr a, .arr b] = { value := .arr a }) ∧
    isDisjoint.apply [.arr a, .arr b] = isDisjoint.apply [.arr b, .arr a] := by
  have reflexiveA := reflexive_of_nanFree freeA
  have reflexiveB := reflexive_of_nanFree freeB
  refine ⟨rfl, ?_, rfl, ?_, ?_, ?_, ?_⟩
  · change Reply.mk (.arr (Sequence.intersection a b)) [] =
      { value := .arr (Sequence.unique (Sequence.difference a (Sequence.difference a b))) }
    rw [Sequence.difference_difference reflexiveA, Sequence.intersection]
  · change Reply.mk (.arr (Sequence.unique (Sequence.symmetricDifference a b))) [] =
      { value := .arr (Sequence.difference (Sequence.union a b) (Sequence.intersection a b)) }
    rw [Sequence.unique_symmetricDifference reflexiveA reflexiveB]
  · exact truth_eq_iff.trans (Sequence.isDisjoint_iff_intersection.trans array_eq_iff.symm)
  · exact truth_eq_iff.trans (Sequence.isDisjoint_iff_difference.trans array_eq_iff.symm)
  · change Reply.mk (.bool (Sequence.isDisjoint a b)) [] = { value := .bool (Sequence.isDisjoint b a) }
    rw [Sequence.isDisjoint_comm]

/-- Two arrays with a repeated item, nested ones and both zeros. -/
def crowded : List Value × List Value :=
  ([.num 0, .str "x", .num (-0), .arr [.null], .str "x"], [.arr [.null], .num 1, .num 1])

theorem set_identities_crowded :
    (∀ v ∈ crowded.1, v.NaNFree) ∧ (∀ v ∈ crowded.2, v.NaNFree) ∧
    ListFunction.unique.apply
        [(symmetricDifference.apply [.arr crowded.1, .arr crowded.2]).value] =
      difference.apply
        [(union.apply [.arr crowded.1, .arr crowded.2]).value,
          (intersection.apply [.arr crowded.1, .arr crowded.2]).value] ∧
    isDisjoint.apply [.arr crowded.1, .arr crowded.2] = { value := .bool false } ∧
    isDisjoint.apply [.arr crowded.2, .arr crowded.1] = { value := .bool false } := by
  have freeA : ∀ v ∈ crowded.1, v.NaNFree := by decide
  have freeB : ∀ v ∈ crowded.2, v.NaNFree := by decide
  have shared : isDisjoint.apply [.arr crowded.1, .arr crowded.2] = { value := .bool false } := rfl
  obtain ⟨-, -, -, apart, -, -, swapped⟩ := set_identities crowded.1 crowded.2 freeA freeB
  exact ⟨freeA, freeB, apart, shared, swapped.symm.trans shared⟩

private theorem isSubset_eq_true_iff :
    isSubset.apply [.arr a, .arr b] = { value := .bool true } ↔
      (∀ v ∈ a, ∃ w ∈ b, (v == w) = true) ∧ a.length ≤ b.length := by
  refine truth_eq_iff.trans ?_
  rw [Sequence.isSubset_iff, Sequence.difference_eq_nil_iff]

/-- The subset test on arrays, the first without NaN. It asks not only that every item of the first
array equals some item of the second, which is that their difference is empty, but also that the first
is not longer. The two agree if no item of the first array is repeated, hence on the first occurrences
of any array. An array is found to be a subset of a union with it only if the union is not shorter, and
of its own first occurrences only if it repeats nothing. -/
theorem subset_test_counts_items (a b : List Value) (free : ∀ v ∈ a, v.NaNFree) :
    let covered := ∀ v ∈ a, ∃ w ∈ b, (v == w) = true
    (difference.apply [.arr a, .arr b] = { value := .arr [] } ↔ covered) ∧
    isSuperset.apply [.arr b, .arr a] = isSubset.apply [.arr a, .arr b] ∧
    (isSubset.apply [.arr a, .arr b] = { value := .bool true } ↔ covered ∧ a.length ≤ b.length) ∧
    (Distinct a → (isSubset.apply [.arr a, .arr b] = { value := .bool true } ↔ covered)) ∧
    (isSubset.apply [(ListFunction.unique.apply [.arr a]).value, .arr b] = { value := .bool true } ↔
      covered) ∧
    (isSubset.apply [.arr a, (union.apply [.arr a, .arr b]).value] = { value := .bool true } ↔
      a.length ≤ (Sequence.union a b).length) ∧
    (isSubset.apply [.arr a, (ListFunction.unique.apply [.arr a]).value] = { value := .bool true } ↔
      Distinct a) := by
  intro covered
  have reflexive := reflexive_of_nanFree free
  have empty {c d : List Value} : Sequence.difference c d = [] ↔ ∀ v ∈ c, ∃ w ∈ d, (v == w) = true :=
    Sequence.difference_eq_nil_iff
  have exact_of_distinct {c : List Value} (distinct : Distinct c) :
      isSubset.apply [.arr c, .arr b] = { value := .bool true } ↔ ∀ v ∈ c, ∃ w ∈ b, (v == w) = true :=
    isSubset_eq_true_iff.trans <| and_iff_left_of_imp fun within =>
      Sequence.length_le_of_difference_eq_nil distinct (empty.mpr within)
  have inUnion (c : List Value) : ∀ v ∈ a, ∃ w ∈ Sequence.union a c, (v == w) = true :=
    empty.mp (Sequence.difference_union_eq_nil reflexive c)
  refine ⟨array_eq_iff.trans empty, rfl, isSubset_eq_true_iff, exact_of_distinct, ?_, ?_, ?_⟩
  · refine (exact_of_distinct (Sequence.distinct_unique a)).trans ?_
    rw [← empty, Sequence.difference_unique_left, Sequence.unique_eq_nil_iff, empty]
  · exact isSubset_eq_true_iff.trans (and_iff_right (inUnion b))
  · have own := inUnion []
    rw [Sequence.union, List.append_nil] at own
    exact (isSubset_eq_true_iff.trans (and_iff_right own)).trans Sequence.length_le_unique_iff

/-- An item that is repeated. -/
def twice : List Value := [.num 1, .num 1]

theorem subset_test_counts_items_twice :
    (∀ v ∈ twice, v.NaNFree) ∧
    isSubset.apply [(ListFunction.unique.apply [.arr twice]).value, .arr [.num 1]] =
      { value := .bool true } := by
  have free : ∀ v ∈ twice, v.NaNFree := by decide
  have covered : ∀ v ∈ twice, ∃ w ∈ [Value.num 1], (v == w) = true := by decide
  obtain ⟨-, -, -, -, firsts, -, -⟩ := subset_test_counts_items twice [.num 1] free
  exact ⟨free, firsts.mpr covered⟩

/-- An array that repeats its only item has nothing beyond that item alone, and yet is no subset of
it, of their union or of its own first occurrences. -/
theorem repetition_is_no_subset :
    difference.apply [.arr twice, .arr [.num 1]] = { value := .arr [] } ∧
    isSubset.apply [.arr twice, .arr [.num 1]] = { value := .bool false } ∧
    isSubset.apply [.arr twice, (union.apply [.arr twice, .arr [.num 1]]).value] =
      { value := .bool false } ∧
    isSubset.apply [.arr twice, (ListFunction.unique.apply [.arr twice]).value] =
      { value := .bool false } :=
  ⟨rfl, rfl, rfl, rfl⟩

end StackVM.SetFunction
