import StackVM.Proofs.Number.Parts
import StackVM.Proofs.Value.Json

/-! # Equality of values

Structural equality is symmetric and transitive. It is reflexive on the values that hold no NaN, and
on no others.
-/

namespace StackVM

namespace Number

/-- The bits of NaN are those of one number only. -/
theorem isNaN_iff_eq_nan {x : Float} : isNaN x = true ↔ x = Float.nan := by
  constructor
  · intro marked
    obtain ⟨full, nonempty⟩ : exponentField x = 2047 ∧ x.toBits.toNat % 0x10000000000000 ≠ 0 := by
      simpa [isNaN] using marked
    have bits : x.toModel.toBits.toBitVec = Float.Model.UnpackedFloat.packedNaN .binary64 := by
      refine x.toModel.valid.eq_packedNaN
        (BitVec.eq_of_toNat_eq ((toNat_unpackExponent x).trans full)) fun empty => nonempty ?_
      rw [← toNat_unpackMantissa, empty]
      rfl
    exact Float.toBits_inj.mp (UInt64.toBitVec_inj.mp bits)
  · rintro rfl
    decide

private theorem beq_self_iff_isNaN (x : Float) : (x == x) = true ↔ isNaN x = false := by
  rw [Float.beq_self_iff, ← Bool.not_eq_true, isNaN_iff_eq_nan]

end Number

namespace Value

mutual

/-- No number within the value is NaN. -/
def NaNFree : Value → Prop
  | .num x => x.isNaN = false
  | .arr items => NaNFreeItems items
  | .obj fields => NaNFreeFields fields
  | _ => True

/-- No item holds NaN. -/
def NaNFreeItems : List Value → Prop
  | [] => True
  | v :: rest => NaNFree v ∧ NaNFreeItems rest

/-- No field holds NaN. -/
def NaNFreeFields : List (String × Value) → Prop
  | [] => True
  | (_, v) :: rest => NaNFree v ∧ NaNFreeFields rest

end

section Relation

mutual

theorem beq_symm : ∀ {v w : Value}, beq v w = true → beq w v = true
  | .null, .null, _ => rfl
  | .bool _, .bool _, equal => BEq.symm equal
  | .num _, .num _, equal => BEq.symm equal
  | .str _, .str _, equal => BEq.symm equal
  | .arr items, .arr others, equal =>
    beqItems_symm (show beqItems items others = true from equal)
  | .obj fields, .obj others, equal =>
    beqFields_symm (show beqFields fields others = true from equal)

private theorem beqItems_symm :
    ∀ {vs ws : List Value}, beqItems vs ws = true → beqItems ws vs = true
  | [], [], _ => rfl
  | v :: vs, w :: ws, equal => by
    obtain ⟨first, rest⟩ : beq v w = true ∧ beqItems vs ws = true := by
      simpa [beqItems] using equal
    rw [beqItems, beq_symm first, beqItems_symm rest, Bool.and_true]

private theorem beqFields_symm : ∀ {fs gs : List (String × Value)}, beqFields fs gs = true →
    beqFields gs fs = true
  | [], [], _ => rfl
  | (j, v) :: fs, (k, w) :: gs, equal => by
    obtain ⟨⟨rfl, first⟩, rest⟩ : (j = k ∧ beq v w = true) ∧ beqFields fs gs = true := by
      simpa [beqFields] using equal
    rw [beqFields, beq_self_eq_true, beq_symm first, beqFields_symm rest, Bool.and_true,
      Bool.and_true]

end

mutual

theorem beq_trans : ∀ {u v w : Value}, beq u v = true → beq v w = true → beq u w = true
  | .null, .null, .null, _, _ => rfl
  | .bool _, .bool _, .bool _, left, right => BEq.trans left right
  | .num _, .num _, .num _, left, right => BEq.trans left right
  | .str _, .str _, .str _, left, right => BEq.trans left right
  | .arr us, .arr vs, .arr ws, left, right =>
    beqItems_trans (show beqItems us vs = true from left) (show beqItems vs ws = true from right)
  | .obj fs, .obj gs, .obj hs, left, right =>
    beqFields_trans (show beqFields fs gs = true from left) (show beqFields gs hs = true from right)

private theorem beqItems_trans :
    ∀ {us vs ws : List Value}, beqItems us vs = true → beqItems vs ws = true →
    beqItems us ws = true
  | [], [], [], _, _ => rfl
  | u :: us, v :: vs, w :: ws, left, right => by
    obtain ⟨first, rest⟩ : beq u v = true ∧ beqItems us vs = true := by
      simpa [beqItems] using left
    obtain ⟨first', rest'⟩ : beq v w = true ∧ beqItems vs ws = true := by
      simpa [beqItems] using right
    rw [beqItems, beq_trans first first', beqItems_trans rest rest', Bool.and_true]

private theorem beqFields_trans : ∀ {fs gs hs : List (String × Value)}, beqFields fs gs = true →
    beqFields gs hs = true → beqFields fs hs = true
  | [], [], [], _, _ => rfl
  | (j, u) :: fs, (k, v) :: gs, (l, w) :: hs, left, right => by
    obtain ⟨⟨rfl, first⟩, rest⟩ : (j = k ∧ beq u v = true) ∧ beqFields fs gs = true := by
      simpa [beqFields] using left
    obtain ⟨⟨rfl, first'⟩, rest'⟩ : (j = l ∧ beq v w = true) ∧ beqFields gs hs = true := by
      simpa [beqFields] using right
    rw [beqFields, beq_self_eq_true, beq_trans first first', beqFields_trans rest rest',
      Bool.and_true, Bool.and_true]

end

instance : PartialEquivBEq Value where
  symm := beq_symm
  trans := beq_trans

end Relation

section Reflexivity

private theorem nanFreeItems_iff {items : List Value} :
    NaNFreeItems items ↔ ∀ v ∈ items, v.NaNFree :=
  forall_mem_iff_of_cons NaNFreeItems trivial (fun _ _ => Iff.rfl) items

private theorem nanFreeFields_iff {fields : List (String × Value)} :
    NaNFreeFields fields ↔ ∀ f ∈ fields, f.2.NaNFree :=
  forall_mem_iff_of_cons NaNFreeFields trivial (fun _ _ => Iff.rfl) fields

private theorem beqItems_self_iff {items : List Value} :
    beqItems items items = true ↔ ∀ v ∈ items, beq v v = true :=
  forall_mem_iff_of_cons (fun vs => beqItems vs vs = true) rfl
    (fun _ _ => by rw [beqItems, Bool.and_eq_true]) items

private theorem beqFields_self_iff {fields : List (String × Value)} :
    beqFields fields fields = true ↔ ∀ f ∈ fields, beq f.2 f.2 = true :=
  forall_mem_iff_of_cons (fun fs => beqFields fs fs = true) rfl
    (fun _ _ => by rw [beqFields, beq_self_eq_true, Bool.true_and, Bool.and_eq_true]) fields

theorem beq_self_iff (v : Value) : beq v v = true ↔ v.NaNFree := by
  induction v using nested_induction with
  | null => exact iff_of_true rfl trivial
  | bool b => exact iff_of_true (beq_self_eq_true b) trivial
  | num x => exact Number.beq_self_iff_isNaN x.toFloat
  | str s => exact iff_of_true (beq_self_eq_true s) trivial
  | arr items ih =>
    rw [beq, NaNFree, beqItems_self_iff, nanFreeItems_iff]
    exact forall₂_congr ih
  | obj fields ih =>
    rw [beq, NaNFree, beqFields_self_iff, nanFreeFields_iff]
    exact forall₂_congr ih

instance (v : Value) : Decidable v.NaNFree := decidable_of_iff _ (beq_self_iff v)

end Reflexivity

end Value

end StackVM
