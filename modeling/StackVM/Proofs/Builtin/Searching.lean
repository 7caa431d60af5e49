import StackVM.Builtin.ListFunction
import StackVM.Builtin.Operator
import StackVM.Proofs.Number.Value
import StackVM.Proofs.Sequence.Membership
import StackVM.Proofs.Value.Equality

/-! # Looking for an item of an array

Four builtins search an array for a value: for its first position, for the position of one of its
occurrences, for their number and for whether there is any. Each is brought to the list of indexes
at which an item equals the value. The positions are replies, hence numbers: no position is rounded
to zero, and while numbers can count the items, greater positions are greater numbers.
-/

namespace StackVM

/-- A positive integer is not rounded to zero, however large it is. -/
theorem Value.ofNat_ne_zero {n : ℕ} (positive : 0 < n) : (Value.ofNat n == Value.ofNat 0) = false := by
  have large : (2 : ℚ) ^ (-1075 : ℤ) < n := by
    calc
      (2 : ℚ) ^ (-1075 : ℤ) < 1 := zpow_lt_one_of_neg₀ one_lt_two (by norm_num)
      _ ≤ n := by exact_mod_cast positive
  obtain ⟨significand, exponent, canonical, rounds⟩ := Number.exists_roundsTo large
  have number : Number.ofNat n = (⟨false, significand, exponent⟩ : Number.Parts).float :=
    Number.ofScientific_up positive (by decide) canonical (by simpa using rounds)
  change Float.Model.UnpackedFloat.beq (Number.ofNat n).toModel.unpack (.zero .positive) = false
  rw [number]
  by_cases bounded : exponent ≤ 971
  · rw [Number.Parts.unpack_float canonical bounded, Number.Parts.unpacked_of_pos _ canonical.pos]
    rfl
  · rw [Number.Parts.unpack_float_beyond canonical.pos (not_le.mp bounded)]
    rfl

namespace Lists

open Sequence

variable {items : List Value} {v n : Value} {k : ℤ}

theorem index_apply (items : List Value) (v : Value) :
    ListFunction.index.apply [.arr items, v] = { value := positionOf (indexesOf items v)[0]? } := by
  change Reply.mk (positionOf (items.findIdx? (· == v))) [] = _
  rw [findIdx?_eq_head]

theorem count_apply (items : List Value) (v : Value) :
    ListFunction.count.apply [.arr items, v] = { value := .ofNat (indexesOf items v).length } := by
  rw [length_indexesOf]
  rfl

/-- An integer beyond the words is found no more than the greatest word, which is beyond the array. -/
theorem find_apply
    (counted : n.toInt = k ∨ Number.IsInt n.toNumber k ∧ items.length < Number.maxInt64) :
    ListFunction.find.apply [.arr items, v, n] =
      { value := positionOf (indexesOf items v)[(max k 1).toNat - 1]? } := by
  change Reply.mk (positionOf (indexesOf items v)[(max n.toInt 1).toNat - 1]?) [] = _
  rcases counted with rfl | ⟨is, few⟩
  · rfl
  · have clamped : n.toInt = max Number.minInt64 (min Number.maxInt64 k) := is.clampToInt _ _
    have fewer : (indexesOf items v).length ≤ items.length := by
      rw [length_indexesOf]
      exact List.countP_le_length
    by_cases large : k ≤ Number.maxInt64
    · have same : (max n.toInt 1).toNat = (max k 1).toNat := by
        unfold Number.minInt64 Number.maxInt64 at *
        omega
      rw [same]
    · rw [List.getElem?_eq_none, List.getElem?_eq_none] <;>
        (unfold Number.minInt64 Number.maxInt64 at *; omega)

private theorem inArray_apply (items : List Value) (v : Value) :
    BinaryOperator.inArray.apply v (.arr items) =
      { value := .bool (decide (0 < (indexesOf items v).length)) } := by
  have member : items.contains v = decide (0 < (indexesOf items v).length) := by
    rw [Bool.eq_iff_iff, decide_eq_true_iff, List.contains_iff_exists_mem_beq, length_indexesOf,
      List.countP_pos_iff]
    exact exists_congr fun w => and_congr_right fun _ => ⟨BEq.symm, BEq.symm⟩
  rw [← member]
  rfl

/-- Looking for an item of an array enumerates its occurrences. There is a list of positions, in
ascending order, which are exactly those whose item equals the value; they ascend as numbers too if
numbers can count the items. Their number is the count; looking for occurrence number `k` gives the
position with that number, the first if `k` is less than one, and zero beyond the last; the first of
them is the index; and the value is in the array if there is any. -/
theorem find_enumerates_occurrences (items : List Value) (v : Value) :
    ∃ positions : List ℕ,
      positions.Pairwise (· < ·) ∧
      (items.length < 0x20000000000000 →
        positions.Pairwise fun p q => Number.ofNat p < Number.ofNat q) ∧
      (∀ p, p ∈ positions ↔ 0 < p ∧ ∃ w, items[p - 1]? = some w ∧ (w == v) = true) ∧
      ListFunction.count.apply [.arr items, v] = { value := .ofNat positions.length } ∧
      (∀ (n : Value) (k : ℤ),
        n.toInt = k ∨ Number.IsInt n.toNumber k ∧ items.length < Number.maxInt64 →
        (((ListFunction.find.apply [.arr items, v, n]).value == .ofNat 0) = false ↔
          max k 1 ≤ positions.length) ∧
        ∀ (i : ℕ) (p : ℕ), positions[i]? = some p → max k 1 = i + 1 →
          ListFunction.find.apply [.arr items, v, n] = { value := .ofNat p }) ∧
      ListFunction.index.apply [.arr items, v] =
        ListFunction.find.apply [.arr items, v, .ofNat 1] ∧
      BinaryOperator.inArray.apply v (.arr items) =
        { value := .bool (decide (0 < positions.length)) } := by
  have ascending := pairwise_indexesOf items v
  refine ⟨(indexesOf items v).map (· + 1), ?_, fun few => ?_, fun p => ?_, ?_,
    fun n k counted => ⟨?_, ?_⟩, ?_, ?_⟩
  · rw [List.pairwise_map]
    exact ascending.imp Nat.succ_lt_succ
  · rw [List.pairwise_map]
    refine ascending.imp_of_mem fun _ member less => ?_
    obtain ⟨w, found, _⟩ := mem_indexesOf.mp member
    have inside := (List.getElem?_eq_some_iff.mp found).1
    exact Number.ofNat_lt_ofNat (Nat.succ_lt_succ less) (by omega)
  · rw [List.mem_map]
    constructor
    · rintro ⟨i, member, rfl⟩
      exact ⟨Nat.succ_pos i, mem_indexesOf.mp member⟩
    · rintro ⟨positive, found⟩
      exact ⟨p - 1, mem_indexesOf.mpr found, Nat.sub_add_cancel positive⟩
  · rw [count_apply, List.length_map]
  · rw [find_apply counted, List.length_map]
    cases found : (indexesOf items v)[(max k 1).toNat - 1]? with
    | none =>
      have beyond := List.getElem?_eq_none_iff.mp found
      refine iff_of_false (fun zero => ?_) (by omega)
      exact absurd zero (by decide)
    | some i =>
      have inside := (List.getElem?_eq_some_iff.mp found).1
      exact iff_of_true (Value.ofNat_ne_zero (Nat.succ_pos i)) (by omega)
  · intro i p position number
    have same : (max k 1).toNat - 1 = i := by omega
    rw [List.getElem?_map, Option.map_eq_some_iff] at position
    obtain ⟨index, found, rfl⟩ := position
    rw [find_apply counted, same, found]
    rfl
  · have one : (Value.ofNat 1).toInt = 1 := rfl
    rw [index_apply, find_apply (.inl one)]
    rfl
  · rw [inArray_apply, List.length_map]

/-- Zero is found by its negative; a number less than one asks for the first occurrence. -/
theorem find_enumerates_occurrences_zero :
    (Value.num (-2.5)).toInt = -2 ∧
    ((ListFunction.find.apply [.arr [.num Float.nan, .num (-0)], .num 0, .num (-2.5)]).value ==
      .ofNat 0) = false := by
  have number : (Value.num (-2.5)).toInt = -2 := by decide
  obtain ⟨positions, -, -, members, -, finds, -, -⟩ :=
    find_enumerates_occurrences [.num Float.nan, .num (-0)] (.num 0)
  have second : 2 ∈ positions := (members 2).mpr ⟨by decide, .num (-0), rfl, by decide⟩
  have some := List.length_pos_of_mem second
  exact ⟨number, (finds _ _ (.inl number)).1.mpr (by omega)⟩

end Lists

end StackVM
