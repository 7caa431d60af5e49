import Mathlib.Algebra.Order.Group.Int
import Mathlib.Data.List.GetD
import Mathlib.Data.List.Perm.Basic
import StackVM.Builtin.Draw
import StackVM.Proofs.Sequence.Position

/-! # Draws stay within their input

A number drawn below a bound is the high half of a product with the bound, so it is smaller, however
many draws were rejected before. Adding it to the lower end of a range wraps around at most once and
ends within the range. Items are drawn by positions of a list that loses each drawn one.
-/

namespace StackVM

namespace Random

section Words

private theorem toNat_highProduct (x n : UInt64) :
    (highProduct x n).toNat = x.toNat * n.toNat / 0x10000000000000000 := by
  have product : x.toNat * n.toNat ≤ 0x10000000000000000 * n.toNat :=
    Nat.mul_le_mul_right _ (Nat.le_of_lt x.toNat_lt)
  have small := Nat.div_le_of_le_mul product
  have word := n.toNat_lt
  rw [highProduct, Nat.toUInt64_eq, UInt64.toNat_ofNat']
  exact Nat.mod_eq_of_lt (by omega)

private theorem highProduct_lt (x : UInt64) {n : UInt64} (positive : 0 < n.toNat) :
    (highProduct x n).toNat < n.toNat := by
  rw [toNat_highProduct]
  exact Nat.div_lt_of_lt_mul (Nat.mul_lt_mul_of_pos_right x.toNat_lt positive)

/-- Every draw below a bound ends with the high half of a product with the bound. -/
theorem exists_below_eq (r : Random) (n : UInt64) : ∃ x, (r.below n).1 = highProduct x n := by
  fun_induction below r n with
  | case1 r drawn rejected ih => exact ih
  | case2 r drawn accepted => exact ⟨_, rfl⟩

private theorem below_lt (r : Random) {n : UInt64} (positive : 0 < n.toNat) :
    (r.below n).1.toNat < n.toNat := by
  obtain ⟨x, drawn⟩ := r.exists_below_eq n
  exact drawn ▸ highProduct_lt x positive

/-- A drawn position lies in the list, also where the length of the list is no word. -/
theorem below_length_lt (r : Random) {length : Nat} (positive : 0 < length) :
    (r.below length.toUInt64).1.toNat < length := by
  have word : length.toUInt64.toNat = length % 2 ^ 64 := by
    rw [Nat.toUInt64_eq, UInt64.toNat_ofNat']
  by_cases wraps : length.toUInt64.toNat = 0
  · obtain ⟨x, drawn⟩ := r.exists_below_eq length.toUInt64
    rw [drawn, toNat_highProduct, wraps]
    simpa using positive
  · have drawn := r.below_lt (Nat.pos_of_ne_zero wraps)
    have := Nat.mod_le length (2 ^ 64)
    omega

end Words

section Ranges

variable {lo hi : Int64}

private theorem toInt_bounds (x : Int64) :
    -0x8000000000000000 ≤ x.toInt ∧ x.toInt ≤ 0x7fffffffffffffff :=
  ⟨Int64.le_iff_toInt_le.mp (Int64.minValue_le x), Int64.le_iff_toInt_le.mp (Int64.le_maxValue x)⟩

/-- A signed word is its unsigned one, or less by as many as there are words. -/
theorem toInt_eq_toNat (x : Int64) : x.toInt = x.toUInt64.toNat ∨
    x.toInt = (x.toUInt64.toNat : Int) - 0x10000000000000000 := by
  have cond : x.toInt = _ := BitVec.toInt_eq_toNat_cond x.toBitVec
  change x.toInt = if 2 * x.toUInt64.toNat < 2 ^ 64 then (x.toUInt64.toNat : Int)
    else (x.toUInt64.toNat : Int) - ((2 ^ 64 : Nat) : Int) at cond
  split at cond
  · exact .inl cond
  · exact .inr cond

/-- The number of integers in a range that is not the whole of them fits into a word. -/
theorem toNat_rangeSize (ordered : lo ≤ hi)
    (proper : ¬ (lo = Int64.minValue ∧ hi = Int64.maxValue)) :
    ((hi - lo + 1).toUInt64.toNat : Int) = hi.toInt - lo.toInt + 1 := by
  have nonempty := Int64.le_iff_toInt_le.mp ordered
  have difference := UInt64.toNat_sub hi.toUInt64 lo.toUInt64
  have size : (hi - lo + 1).toUInt64.toNat = _ := UInt64.toNat_add (hi.toUInt64 - lo.toUInt64) 1
  have one : (1 : UInt64).toNat = 1 := rfl
  have improper : lo.toInt ≠ -0x8000000000000000 ∨ hi.toInt ≠ 0x7fffffffffffffff := by
    by_contra! whole
    exact proper ⟨Int64.toInt_inj.mp whole.1, Int64.toInt_inj.mp whole.2⟩
  have := toInt_bounds lo
  have := toInt_bounds hi
  have := lo.toUInt64.toNat_lt
  have := hi.toUInt64.toNat_lt
  rcases toInt_eq_toNat lo with low | low <;> rcases toInt_eq_toNat hi with high | high <;> omega

/-- A number that does not lead out of the range is added without overflow, though the sum of the
unsigned words may wrap around. -/
theorem toInt_add_of_le {k : UInt64} (within : (k.toNat : Int) ≤ hi.toInt - lo.toInt) :
    (lo.toUInt64 + k).toInt64.toInt = lo.toInt + k.toNat := by
  have sum : (lo.toUInt64 + k).toInt64.toUInt64.toNat = _ := UInt64.toNat_add lo.toUInt64 k
  have := toInt_bounds lo
  have := toInt_bounds hi
  have := toInt_bounds (lo.toUInt64 + k).toInt64
  have := lo.toUInt64.toNat_lt
  rcases toInt_eq_toNat lo with low | low <;>
    rcases toInt_eq_toNat (lo.toUInt64 + k).toInt64 with high | high <;> omega

private theorem between_proper (r : Random)
    (proper : ¬ (lo = Int64.minValue ∧ hi = Int64.maxValue)) :
    (r.between lo hi).1 = (lo.toUInt64 + (r.below (hi - lo + 1).toUInt64).1).toInt64 := by
  unfold between
  generalize r.below (hi - lo + 1).toUInt64 = drawn
  rw [if_neg proper]

private theorem between_within (r : Random) (ordered : lo ≤ hi) :
    lo ≤ (r.between lo hi).1 ∧ (r.between lo hi).1 ≤ hi := by
  by_cases whole : lo = Int64.minValue ∧ hi = Int64.maxValue
  · rw [whole.1, whole.2]
    exact ⟨Int64.minValue_le _, Int64.le_maxValue _⟩
  · have size := toNat_rangeSize ordered whole
    have nonempty := Int64.le_iff_toInt_le.mp ordered
    have drawn := r.below_lt (n := (hi - lo + 1).toUInt64) (by omega)
    have within : ((r.below (hi - lo + 1).toUInt64).1.toNat : Int) ≤ hi.toInt - lo.toInt := by omega
    have sum := toInt_add_of_le within
    rw [between_proper r whole, Int64.le_iff_toInt_le, Int64.le_iff_toInt_le, sum]
    omega

end Ranges

section Pools

variable {α β : Type}

/-- A draw takes the item at a position of the list and goes on with the others. -/
theorem take_succ (count : Nat) {pool : List α} {r rest : Random} {i : UInt64}
    (drawn : r.below pool.length.toUInt64 = (i, rest)) (within : i.toNat < pool.length) :
    take (count + 1) pool r =
      (pool[i.toNat] :: (take count (pool.eraseIdx i.toNat) rest).1,
        (take count (pool.eraseIdx i.toNat) rest).2) := by
  simp only [take, drawn, List.getElem?_eq_getElem within]

/-- What is drawn and what is left over make up the list. -/
theorem exists_perm_take {count : Nat} {pool : List α} (enough : count ≤ pool.length) (r : Random) :
    (take count pool r).1.length = count ∧
      ∃ left, ((take count pool r).1 ++ left).Perm pool := by
  induction count generalizing pool r with
  | zero => exact ⟨rfl, pool, .refl pool⟩
  | succ count ih =>
    have within := r.below_length_lt (Nat.lt_of_lt_of_le count.succ_pos enough)
    rcases drawn : r.below pool.length.toUInt64 with ⟨i, rest⟩
    rw [drawn] at within
    have shorter : count ≤ (pool.eraseIdx i.toNat).length := by
      rw [List.length_eraseIdx_of_lt within]
      omega
    obtain ⟨length, left, perm⟩ := ih shorter rest
    rw [take_succ count drawn within]
    refine ⟨congrArg (· + 1) length, left, ?_⟩
    exact (perm.cons _).trans (List.getElem_cons_eraseIdx_perm within)

/-- Which positions are drawn does not depend on the items. -/
theorem take_map (f : α → β) (count : Nat) (pool : List α) (r : Random) :
    (take count (pool.map f) r).1 = (take count pool r).1.map f := by
  induction count generalizing pool r with
  | zero => rfl
  | succ count ih =>
    by_cases empty : pool = []
    · subst empty
      rfl
    · have within := r.below_length_lt (List.length_pos_iff.mpr empty)
      rcases drawn : r.below pool.length.toUInt64 with ⟨i, rest⟩
      rw [drawn] at within
      have same : r.below (pool.map f).length.toUInt64 = (i, rest) := by rw [List.length_map, drawn]
      rw [take_succ count drawn within, take_succ count same (by rwa [List.length_map]),
        List.eraseIdx_map, ih, List.getElem_map, List.map_cons]

/-- The drawn items stand at different positions of the list. -/
theorem exists_positions_take {count : Nat} {pool : List α} (enough : count ≤ pool.length)
    (r : Random) : ∃ positions left : List (Fin pool.length),
      (positions ++ left).Perm (List.finRange pool.length) ∧
      (take count pool r).1 = positions.map pool.get := by
  have whole : count ≤ (List.finRange pool.length).length := by rwa [List.length_finRange]
  obtain ⟨-, left, perm⟩ := exists_perm_take whole r
  refine ⟨_, left, perm, ?_⟩
  rw [← take_map, List.map_get_finRange]

end Pools

end Random

namespace Draws

variable {items : List Value} {count : Float}

/-- A parameter fits into the word that is made of it. -/
theorem toInt_ofInt_int (p : Params) (i : Nat) : (Int64.ofInt (p.int i)).toInt = p.int i := by
  obtain ⟨least, most⟩ := Sequence.fitsWord_toInt (p.num i)
  exact Int64.toInt_ofInt_of_le least (Int.lt_of_le_sub_one most)

private theorem integer_within (a b : Int64) (r : Random) :
    ∃ n : Int64, (integer a b r).1 = .ofInt n.toInt ∧
      min a.toInt b.toInt ≤ n.toInt ∧ n.toInt ≤ max a.toInt b.toInt := by
  rw [integer]
  by_cases ordered : a ≤ b
  · have ascending := Int64.le_iff_toInt_le.mp ordered
    obtain ⟨least, most⟩ := r.between_within ordered
    rw [if_pos ordered, min_eq_left ascending, max_eq_right ascending]
    exact ⟨_, rfl, Int64.le_iff_toInt_le.mp least, Int64.le_iff_toInt_le.mp most⟩
  · have reversed := (Int64.le_total a b).resolve_left ordered
    have descending := Int64.le_iff_toInt_le.mp reversed
    obtain ⟨least, most⟩ := r.between_within reversed
    rw [if_neg ordered, min_eq_right descending, max_eq_left descending]
    exact ⟨_, rfl, Int64.le_iff_toInt_le.mp least, Int64.le_iff_toInt_le.mp most⟩

private theorem element_mem (nonempty : items ≠ []) (r : Random) : (element items r).1 ∈ items := by
  have within := r.below_length_lt (List.length_pos_iff.mpr nonempty)
  rw [element, if_neg (by simpa using nonempty)]
  simp only [List.getD_eq_getElem _ _ within]
  exact List.getElem_mem within

private theorem elements_eq (nonempty : items ≠ []) (r : Random) :
    (elements items count r).1 = .arr (r.take (min (Number.toNat count) items.length) items).1 := by
  rw [elements, if_neg (by simpa using nonempty)]

/-- The number of drawn items is the truncated count within the bounds of the list. -/
theorem min_toNat_eq (finite : Number.isFinite count = true)
    (word : items.length < 0x10000000000000000) :
    ((min (Number.toNat count) items.length : Nat) : Int) =
      min (max (Number.parts count).truncated 0) items.length := by
  have number : Number.isNaN count = false := by
    rw [Number.isNaN, Bool.and_eq_false_iff]
    exact .inl (by simpa [Number.isFinite] using finite)
  rw [Number.toNat, Number.clampToInt, number, finite]
  simp only [Bool.false_eq_true, if_false, Bool.not_true]
  omega

/-- Draws stay within their input, whatever the state of the generator. An integer is drawn between
the two truncated bounds, whichever is the smaller, up to the range of all words; an item is drawn
from a list; and several items are drawn from different positions of a list, as many as the
truncated count and the list allow, so that with those left over they make up the list. -/
theorem draws_stay_within (r : Random) (p : Params) :
    (∃ n : Int64, (Draw.int.apply p r).1 = .ofInt n.toInt ∧
      min (p.int 0) (p.int 1) ≤ n.toInt ∧ n.toInt ≤ max (p.int 0) (p.int 1)) ∧
    (p.list 0 ≠ [] → (Draw.element.apply p r).1 ∈ p.list 0) ∧
    (p.list 0 ≠ [] → ∃ positions left : List (Fin (p.list 0).length),
      (positions ++ left).Perm (List.finRange (p.list 0).length) ∧
      (Draw.elements.apply p r).1 = .arr (positions.map (p.list 0).get) ∧
      (positions.map (p.list 0).get ++ left.map (p.list 0).get).Perm (p.list 0) ∧
      positions.length = min (Number.toNat (p.num 1)) (p.list 0).length ∧
      (Number.isFinite (p.num 1) = true → (p.list 0).length < 0x10000000000000000 →
        (positions.length : Int) =
          min (max (Number.parts (p.num 1)).truncated 0) (p.list 0).length)) := by
  refine ⟨?_, fun nonempty => element_mem nonempty r, fun nonempty => ?_⟩
  · have within := integer_within (.ofInt (p.int 0)) (.ofInt (p.int 1)) r
    rwa [toInt_ofInt_int, toInt_ofInt_int] at within
  · have enough := Nat.min_le_right (Number.toNat (p.num 1)) (p.list 0).length
    obtain ⟨positions, left, perm, taken⟩ := Random.exists_positions_take enough r
    have length : positions.length = min (Number.toNat (p.num 1)) (p.list 0).length := by
      rw [← (Random.exists_perm_take enough r).1, taken, List.length_map]
    refine ⟨positions, left, perm, ?_, ?_, length, fun finite word => ?_⟩
    · rw [← taken]
      exact elements_eq nonempty r
    · rw [← List.map_append]
      exact (perm.map _).trans (.of_eq (List.map_get_finRange _))
    · rw [length, min_toNat_eq finite word]

theorem draws_stay_within_list :
    (∃ n : Int64, (Draw.int.apply [.num 1e19, .num (-1e19)] (.ofSeed 7)).1 = .ofInt n.toInt ∧
      Number.minInt64 ≤ n.toInt ∧ n.toInt ≤ Number.maxInt64) ∧
    (Draw.element.apply [.arr [.null, .str "a"], .num 5] (.ofSeed 7)).1 ∈ [.null, .str "a"] ∧
    ∃ positions left : List (Fin 2), (positions ++ left).Perm (List.finRange 2) ∧
      (Draw.elements.apply [.arr [.null, .str "a"], .num 5] (.ofSeed 7)).1 =
        .arr (positions.map [.null, .str "a"].get) ∧ positions.length = 2 := by
  have bounds : Number.minInt64 ≤ min (Number.toInt 1e19) (Number.toInt (-1e19)) ∧
      max (Number.toInt 1e19) (Number.toInt (-1e19)) ≤ Number.maxInt64 := by decide +kernel
  have count : min (Number.toNat 5) 2 = 2 := by decide
  obtain ⟨n, drawn, least, most⟩ := (draws_stay_within (.ofSeed 7) [.num 1e19, .num (-1e19)]).1
  obtain ⟨-, element, elements⟩ :=
    draws_stay_within (.ofSeed 7) [.arr [.null, .str "a"], .num 5]
  obtain ⟨positions, left, perm, taken, -, length, -⟩ := elements (List.cons_ne_nil _ _)
  exact ⟨⟨n, drawn, bounds.1.trans least, most.trans bounds.2⟩, element (List.cons_ne_nil _ _),
    positions, left, perm, taken, length.trans count⟩

end Draws

end StackVM
