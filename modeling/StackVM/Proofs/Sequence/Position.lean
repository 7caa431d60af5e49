import Mathlib.Tactic.SplitIfs
import StackVM.Number.Binary
import StackVM.Sequence.Position

/-! # What positions address

`Addresses` says to which item of a list a position belongs. A truncated number fits into a signed
64-bit word, and so does the length of a list in memory. The searches for an index and for the cuts
of a stretch are repeated here in such words, where a result beyond their range is a failure: they
never fail and find the same.
-/

namespace StackVM.Sequence

variable {position start stop : Int} {length index : Nat}

section Addressing

/-- The position belongs to an item: it counts from one, or back from the end. -/
def Addresses (position : Int) (length index : Nat) : Prop :=
  index < length ∧ (position = index + 1 ∨ position = (index : Int) - length)

instance (position : Int) (length index : Nat) : Decidable (Addresses position length index) :=
  inferInstanceAs (Decidable (_ ∧ _))

theorem index?_eq_some_iff :
    index? position length = some index ↔
      position = index + 1 ∨ position = (index : Int) - length ∧ index < length := by
  unfold index?
  dsimp only
  split_ifs <;> simp only [Option.some.injEq, false_iff] <;> omega

theorem occupied?_eq_some_iff :
    occupied? position length = some index ↔ Addresses position length index := by
  rw [occupied?, Option.filter_eq_some_iff, index?_eq_some_iff, decide_eq_true_iff, Addresses]
  omega

theorem Addresses.position_ne_zero (addresses : Addresses position length index) : position ≠ 0 := by
  unfold Addresses at addresses
  omega

end Addressing

section Words

/-- A signed 64-bit word holds the integer. -/
def FitsWord (n : Int) : Prop := Number.minInt64 ≤ n ∧ n ≤ Number.maxInt64

instance (n : Int) : Decidable (FitsWord n) := inferInstanceAs (Decidable (_ ∧ _))

/-- The integer as a word; there is none if it overflows. -/
def word? (n : Int) : Option Int := if FitsWord n then some n else none

/-- The integer moved between two bounds, which must not be crossed. -/
def clamp? (n low high : Int) : Option Int := if low ≤ high then some (max low (min n high)) else none

/-- The position, counted from one, computed in words. -/
def wordCounted? (position : Int) (length : Nat) : Option Int :=
  if position < 0 then word? (position + length) >>= fun sum => word? (sum + 1) else some position

/-- The index of a position, computed in words. -/
def wordIndex? (position : Int) (length : Nat) : Option (Option Nat) := do
  let index ← word? (if position < 0 then length + position else position - 1)
  return if index < 0 then none else some index.toNat

/-- The index of a position that an item occupies, computed in words from the position counted from
one. -/
def wordOccupied? (position : Int) (length : Nat) : Option (Option Nat) := do
  let counted ← wordCounted? position length
  if 0 < counted ∧ counted ≤ length then
    let index ← word? (counted - 1)
    return some index.toNat
  else return none

/-- Where a list is cut for a stretch between two positions, computed in words. -/
def wordCuts? (start stop : Int) (length : Nat) : Option (Nat × Nat) := do
  let index ← word? (if 0 < start then start - 1 else if start < 0 then length + start else 0)
  let first ← clamp? index 0 length
  let behind ← wordCounted? stop length
  let last ← clamp? behind first length
  return (first.toNat, last.toNat)

theorem fitsWord_toInt (x : Float) : FitsWord (Number.toInt x) := by
  unfold FitsWord Number.toInt Number.clampToInt Number.minInt64 Number.maxInt64
  split_ifs <;> omega

/-- An integer between two words fits into a word. -/
theorem FitsWord.between {low high n : Int} (least : FitsWord low) (most : FitsWord high)
    (above : low ≤ n) (below : n ≤ high) : FitsWord n :=
  ⟨Int.le_trans least.1 above, Int.le_trans below most.2⟩

theorem fitsWord_neg_one : FitsWord (-1) := by decide

theorem word?_of_fits {n : Int} (fits : FitsWord n) : word? n = some n := if_pos fits

private theorem clamp?_of_le {n low high : Int} (le : low ≤ high) :
    clamp? n low high = some (max low (min n high)) := if_pos le

private theorem wordCounted?_eq (fits : FitsWord position) (small : FitsWord length) :
    wordCounted? position length = some (if position < 0 then position + length + 1 else position) := by
  rw [wordCounted?]
  split_ifs with negative
  · have sum : FitsWord (position + length) := fits.between small (by omega) (by omega)
    have next : FitsWord (position + length + 1) := fits.between small (by omega) (by omega)
    rw [word?_of_fits sum]
    exact word?_of_fits next
  · rfl

theorem wordIndex?_eq (fits : FitsWord position) (small : FitsWord length) :
    wordIndex? position length = some (index? position length) := by
  have inside : FitsWord (if position < 0 then length + position else position - 1) := by
    split_ifs
    · exact fits.between small (by omega) (by omega)
    · exact fitsWord_neg_one.between fits (by omega) (by omega)
  rw [wordIndex?, word?_of_fits inside]
  rfl

/-- A position is occupied if it lies within the list once it counts from one. -/
theorem occupied?_eq_counted (position : Int) (length : Nat) :
    let counted := if position < 0 then position + length + 1 else position
    occupied? position length =
      if 0 < counted ∧ counted ≤ length then some (counted - 1).toNat else none := by
  intro counted
  apply Option.ext
  intro index
  rw [occupied?_eq_some_iff, Addresses]
  dsimp only [counted]
  split_ifs <;> simp only [Option.some.injEq, iff_false] <;> omega

theorem wordOccupied?_eq (fits : FitsWord position) (small : FitsWord length) :
    wordOccupied? position length = some (occupied? position length) := by
  rw [wordOccupied?, wordCounted?_eq fits small, occupied?_eq_counted, Option.bind_eq_bind,
    Option.bind_some]
  generalize (if position < 0 then position + length + 1 else position) = counted
  split_ifs with within
  · have less : FitsWord (counted - 1) := fitsWord_neg_one.between small (by omega) (by omega)
    rw [word?_of_fits less]
    rfl
  · rfl

theorem cutBefore_le (start : Int) (length : Nat) : cutBefore start length ≤ length := by
  unfold cutBefore
  split_ifs <;> omega

theorem cutAfter_bounds (stop : Int) {first length : Nat} (within : first ≤ length) :
    first ≤ cutAfter stop first length ∧ cutAfter stop first length ≤ length := by
  unfold cutAfter
  omega

theorem wordCuts?_eq (starts : FitsWord start) (stops : FitsWord stop) (small : FitsWord length) :
    wordCuts? start stop length =
      some (cutBefore start length, cutAfter stop (cutBefore start length) length) := by
  have inside : FitsWord (if 0 < start then start - 1 else if start < 0 then length + start else 0) := by
    split_ifs
    · exact fitsWord_neg_one.between starts (by omega) (by omega)
    · exact starts.between small (by omega) (by omega)
    · exact fitsWord_neg_one.between small (by omega) (by omega)
  have first : max 0 (min (if 0 < start then start - 1 else if start < 0 then length + start else 0)
      length) = (cutBefore start length : Int) := by
    unfold cutBefore
    split_ifs <;> omega
  have last : max (cutBefore start length : Int)
      (min (if stop < 0 then stop + length + 1 else stop) length) =
      (cutAfter stop (cutBefore start length) length : Int) := by
    unfold cutAfter
    split_ifs <;> omega
  have within := cutBefore_le start length
  simp only [wordCuts?, word?_of_fits inside, clamp?_of_le (Int.natCast_nonneg length), first,
    wordCounted?_eq stops small, clamp?_of_le (Int.ofNat_le.mpr within), last, Option.bind_eq_bind,
    Option.bind_some]
  rfl

end Words

end StackVM.Sequence
