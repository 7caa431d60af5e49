import Mathlib.Tactic.SplitIfs
import StackVM.Builtin.Operator
import StackVM.Proofs.Sequence.Position

/-! # Ranges of integers

The length of a range and the end of one that is cut are saturated. Near the ends of the words the
saturated length is not the true one, but it is positive and too long whenever the true one is, and
the end of a cut range is never saturated. So what is left is the beginning of the range, however
long it is, and counting through it does not overflow.
-/

namespace StackVM.Operators

open Sequence (FitsWord)

variable {start stop : Int}

section Bounds

private theorem fitsWord_saturate (n : Int) : FitsWord (saturate n) := by
  unfold Sequence.FitsWord saturate Number.minInt64 Number.maxInt64
  omega

private theorem saturate_of_fits {n : Int} (fits : FitsWord n) : saturate n = n := by
  unfold Sequence.FitsWord at fits
  unfold saturate
  omega

private theorem sliceLength_nonpos_iff : sliceLength start stop ≤ 0 ↔ stop < start := by
  unfold sliceLength saturate Number.minInt64 Number.maxInt64
  omega

/-- The length of a range that is not empty is the true one or the greatest word. -/
theorem sliceLength_eq (ordered : start ≤ stop) :
    sliceLength start stop = min (stop - start + 1) Number.maxInt64 := by
  unfold sliceLength saturate Number.minInt64 Number.maxInt64
  omega

private theorem maxSlice_lt_sliceLength_iff :
    maxSlice < sliceLength start stop ↔ 32768 < stop - start + 1 := by
  unfold maxSlice sliceLength saturate Number.minInt64 Number.maxInt64
  omega

/-- The end of a cut range lies before its other end, so it is not saturated. -/
theorem sliceEnd_eq (starts : FitsWord start) (stops : FitsWord stop) :
    sliceEnd start stop = min stop (start + 32767) := by
  unfold sliceEnd
  split_ifs with long
  · rw [maxSlice_lt_sliceLength_iff] at long
    have fits : FitsWord (start + 32767) := starts.between stops (by omega) (by omega)
    have last : start + ((maxSlice : Int) - 1) = start + 32767 := rfl
    rw [last, saturate_of_fits fits]
    omega
  · rw [maxSlice_lt_sliceLength_iff] at long
    omega

end Bounds

section Counting

/-- The integers from `first` to `last`, each counted up from the one before it in a word. -/
def wordRange? (first last : Int) : Option (List Int) :=
  if last < first then some []
  else if first = last then some [first]
  else if FitsWord (first + 1) then (wordRange? (first + 1) last).map (first :: ·)
  else none
termination_by (last - first).toNat

private theorem wordRange?_eq {first last : Int} (starts : FitsWord first) (stops : FitsWord last) :
    wordRange? first last = some (first...=last).toList := by
  fun_induction wordRange? first last with
  | case1 first empty => rw [Int.toList_rcc_eq_nil empty]
  | case2 => rw [Int.toList_rcc_eq_singleton rfl]
  | case3 first some other fits ih =>
    rw [ih fits, Int.toList_rcc_eq_cons (m := first) (by omega)]
    rfl
  | case4 first some other overflows =>
    exact absurd (starts.between stops (by omega) (by omega)) overflows

end Counting

section Items

private theorem arraySlice_value (starts : FitsWord start) (stops : FitsWord stop) :
    (arraySlice start stop).value = .arr ((start...=sliceEnd start stop).toList.map .ofInt) := by
  unfold arraySlice
  dsimp only
  split_ifs with empty
  · rw [sliceLength_nonpos_iff] at empty
    have before : sliceEnd start stop < start := by
      rw [sliceEnd_eq starts stops]
      omega
    rw [Int.toList_rcc_eq_nil before, List.map_nil]
  · rfl

private theorem arraySlice_warnings (start stop : Int) :
    (arraySlice start stop).warnings =
      if 32768 < stop - start + 1 then [sliceWarning (min (stop - start + 1) Number.maxInt64)]
      else [] := by
  unfold arraySlice
  dsimp only
  simp only [maxSlice_lt_sliceLength_iff]
  split_ifs with long
  · rw [sliceLength_eq (by omega)]
  · rfl

private theorem length_slice (starts : FitsWord start) (stops : FitsWord stop) :
    ((start...=sliceEnd start stop).toList.length : Int) = min (max (stop - start + 1) 0) 32768 := by
  rw [Int.length_toList_rcc, sliceEnd_eq starts stops]
  omega

end Items

/-- A slice is the exact truncated range. With `m` integers from one bound to the other, it has
`min (max m 0) 32768` items, the item at offset `j` is the number `start + j`, and there is a warning
exactly if `m` exceeds 32768. In words, the two lengths and the end are saturated, so that they fit,
and counting from the start to the end never overflows. -/
theorem slice_is_truncated_range (starts : FitsWord start) (stops : FitsWord stop) :
    let m := stop - start + 1
    ∃ items warnings,
      arraySlice start stop = { value := .arr items, warnings } ∧
      (∀ a b : Value, a.toInt = start → b.toInt = stop →
        BinaryOperator.arraySlice.apply a b = { value := .arr items, warnings }) ∧
      (items.length : Int) = min (max m 0) 32768 ∧
      (∀ j < items.length, items[j]? = some (.ofInt (start + j))) ∧
      warnings = (if 32768 < m then [sliceWarning (min m Number.maxInt64)] else []) ∧
      FitsWord (saturate (stop - start)) ∧ FitsWord (sliceLength start stop) ∧
      FitsWord (sliceEnd start stop) ∧
      ∃ integers, wordRange? start (sliceEnd start stop) = some integers ∧
        items = integers.map .ofInt := by
  intro m
  have last : FitsWord (sliceEnd start stop) := by
    unfold sliceEnd
    split_ifs
    · exact fitsWord_saturate _
    · exact stops
  have whole : arraySlice start stop =
      { value := .arr ((start...=sliceEnd start stop).toList.map .ofInt)
        warnings := if 32768 < m then [sliceWarning (min m Number.maxInt64)] else [] } := by
    rw [← arraySlice_value starts stops, ← arraySlice_warnings start stop]
  refine ⟨_, _, whole, ?_, ?_, ?_, rfl, fitsWord_saturate _, fitsWord_saturate _, last, _,
    wordRange?_eq starts last, rfl⟩
  · rintro a b rfl rfl
    exact whole
  · rw [List.length_map]
    exact length_slice starts stops
  · intro j within
    rw [List.getElem?_eq_getElem within, List.getElem_map, Int.getElem_toList_rcc]

/-- The whole range of words, as the infinities denote it. -/
theorem slice_is_truncated_range_extremes :
    FitsWord Number.minInt64 ∧ FitsWord Number.maxInt64 ∧
    ∃ items,
      BinaryOperator.arraySlice.apply (.num (-Number.infinity)) (.num Number.infinity) =
        { value := .arr items, warnings := [sliceWarning Number.maxInt64] } ∧
      items.length = 32768 ∧ items[32767]? = some (.ofInt (-9223372036854743041)) ∧
      ∃ integers, wordRange? Number.minInt64 (-9223372036854743041) = some integers := by
  have least : FitsWord Number.minInt64 := by decide
  have most : FitsWord Number.maxInt64 := by decide
  obtain ⟨items, warnings, -, sliced, length, item, rfl, -, -, -, integers, counted, -⟩ :=
    slice_is_truncated_range least most
  have full : items.length = 32768 := by
    unfold Number.minInt64 Number.maxInt64 at length
    omega
  exact ⟨least, most, items, sliced _ _ rfl rfl, full, item 32767 (by omega), integers, counted⟩

end StackVM.Operators
