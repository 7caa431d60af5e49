import Mathlib.Data.List.Basic
import StackVM.Sequence.Membership

/-! # Lists as sets, up to an equality

The equality of items is symmetric and transitive; where an identity needs an item to equal itself,
this is a hypothesis on the items of a list. Keeping first occurrences commutes with filters that do
not tell equal items apart, and the identities between the set operations follow from that. The
indexes of the items that equal one come in ascending order (`mem_indexesOf`, `pairwise_indexesOf`).
-/

namespace StackVM.Sequence

variable {α : Type} [BEq α] {a b : List α} {v : α} {p : α → Bool}

section Unique

private theorem foldl_addNew_eq_loop (items kept : List α) :
    items.foldl addNew kept = List.eraseDupsBy.loop (· == ·) items kept.reverse := by
  induction items generalizing kept with
  | nil => rw [List.foldl_nil, List.eraseDupsBy.loop, List.reverse_reverse]
  | cons v items ih =>
    rw [List.foldl_cons, List.eraseDupsBy.loop, ih, List.any_reverse, List.any_beq, addNew]
    cases kept.contains v with
    | true => rfl
    | false => rw [if_neg Bool.false_ne_true, List.reverse_append, List.reverse_singleton,
        List.singleton_append]

private theorem unique_eq_eraseDups (items : List α) : unique items = items.eraseDups :=
  foldl_addNew_eq_loop items []

theorem unique_cons (v : α) (items : List α) :
    unique (v :: items) = v :: unique (items.filter fun w => !w == v) := by
  rw [unique_eq_eraseDups, unique_eq_eraseDups, List.eraseDups_cons]

theorem unique_eq_nil_iff : unique a = [] ↔ a = [] := by
  cases a with
  | nil => exact iff_of_true rfl rfl
  | cons v a => simp [unique_cons]

/-- No item of the list equals a later one. -/
def Distinct (items : List α) : Prop := items.Pairwise fun v w => (v == w) = false

instance (items : List α) : Decidable (Distinct items) :=
  inferInstanceAs (Decidable (List.Pairwise _ _))

/-- Induction that passes from a list to its items that differ from the first. -/
theorem unique_induction {motive : List α → Prop} (nil : motive [])
    (cons : ∀ v items, motive (items.filter fun w => !w == v) → motive (v :: items))
    (items : List α) : motive items := by
  induction h : items.length using Nat.strongRecOn generalizing items with
  | ind n ih =>
    cases items with
    | nil => exact nil
    | cons v items =>
      have shorter := List.length_filter_le (fun w => !w == v) items
      rw [List.length_cons] at h
      exact cons v items (ih _ (by omega) _ rfl)

private theorem unique_sublist (a : List α) : (unique a).Sublist a := by
  induction a using unique_induction with
  | nil => exact List.Sublist.refl []
  | cons v a ih =>
    rw [unique_cons]
    exact (ih.trans List.filter_sublist).cons_cons v

end Unique

section Filters

/-- The filter does not tell equal items apart. -/
def Congruent (p : α → Bool) : Prop := ∀ v w, (v == w) = true → p v = p w

theorem Congruent.not (congruent : Congruent p) : Congruent fun v => !p v :=
  fun v w equal => congrArg Bool.not (congruent v w equal)

theorem Congruent.and {q : α → Bool} (left : Congruent p) (right : Congruent q) :
    Congruent fun v => p v && q v :=
  fun v w equal => congrArg₂ Bool.and (left v w equal) (right v w equal)

theorem contains_filter (congruent : Congruent p) (a : List α) (v : α) :
    (a.filter p).contains v = (a.contains v && p v) := by
  rw [Bool.eq_iff_iff, Bool.and_eq_true, List.contains_iff_exists_mem_beq,
    List.contains_iff_exists_mem_beq]
  constructor
  · rintro ⟨w, member, equal⟩
    obtain ⟨member, passes⟩ := List.mem_filter.mp member
    exact ⟨⟨w, member, equal⟩, (congruent v w equal).trans passes⟩
  · rintro ⟨⟨w, member, equal⟩, passes⟩
    exact ⟨w, List.mem_filter.mpr ⟨member, (congruent v w equal).symm.trans passes⟩, equal⟩

private theorem unique_filter (congruent : Congruent p) (a : List α) :
    unique (a.filter p) = (unique a).filter p := by
  induction a using unique_induction with
  | nil => rfl
  | cons v a ih =>
    rw [unique_cons, List.filter_cons, List.filter_cons, ← ih, List.filter_filter]
    split_ifs with passes
    · rw [unique_cons, List.filter_filter]
      simp only [Bool.and_comm]
    · -- What passes the filter differs from `v`, which does not.
      refine congrArg unique (List.filter_congr fun w _ => ?_)
      cases equal : w == v with
      | false => simp
      | true => simp [congruent w v equal, passes]

end Filters

section Sides

theorem contains_of_mem (reflexive : ∀ v ∈ a, (v == v) = true) (member : v ∈ a) :
    a.contains v = true :=
  List.contains_iff_exists_mem_beq.mpr ⟨v, member, reflexive v member⟩

theorem isDisjoint_iff_intersection : isDisjoint a b = true ↔ intersection a b = [] := by
  simp [isDisjoint, intersection, unique_eq_nil_iff]

theorem isDisjoint_iff_difference : isDisjoint a b = true ↔ difference a b = a := by
  simp [isDisjoint, difference, List.filter_eq_self]

theorem difference_eq_nil_iff : difference a b = [] ↔ ∀ v ∈ a, ∃ w ∈ b, (v == w) = true := by
  simp only [difference, List.filter_eq_nil_iff, Bool.not_eq_true, Bool.not_eq_false',
    List.contains_iff_exists_mem_beq]

/-- The subset test compares the lengths as well. -/
theorem isSubset_iff : isSubset a b = true ↔ difference a b = [] ∧ a.length ≤ b.length := by
  simp [isSubset, difference, List.filter_eq_nil_iff]

end Sides

section Occurrences

variable {items : List α}

theorem mem_indexesOf {i : ℕ} :
    i ∈ indexesOf items v ↔ ∃ w, items[i]? = some w ∧ (w == v) = true := by
  simp only [indexesOf, List.mem_filterMap, Prod.exists, List.mem_zipIdx_iff_getElem?]
  constructor
  · rintro ⟨w, j, found, chosen⟩
    split_ifs at chosen with equal
    obtain rfl := Option.some.inj chosen
    exact ⟨w, found, equal⟩
  · rintro ⟨w, found, equal⟩
    exact ⟨w, i, found, if_pos equal⟩

theorem pairwise_indexesOf (items : List α) (v : α) : (indexesOf items v).Pairwise (· < ·) := by
  have ascending : items.zipIdx.Pairwise fun a b => a.2 < b.2 := by
    rw [← List.pairwise_map, List.zipIdx_map_snd]
    exact List.pairwise_lt_range'
  refine ascending.filterMap _ fun (w, i) (w', j) less a first b second => ?_
  dsimp only at less first second
  split_ifs at first second
  obtain rfl := Option.some.inj first
  obtain rfl := Option.some.inj second
  exact less

theorem length_indexesOf (items : List α) (v : α) :
    (indexesOf items v).length = items.countP (· == v) := by
  have chosen : (fun a : α × ℕ => (if a.1 == v then some a.2 else none).isSome) =
      (· == v) ∘ Prod.fst := by
    funext a
    by_cases equal : (a.1 == v) = true <;> simp [equal]
  calc
    _ = items.zipIdx.countP ((· == v) ∘ Prod.fst) := by
      rw [indexesOf, List.length_filterMap_eq_countP, ← chosen]
    _ = items.countP (· == v) := by rw [← List.countP_map, List.zipIdx_map_fst]

theorem findIdx?_eq_head (items : List α) (v : α) :
    items.findIdx? (· == v) = (indexesOf items v)[0]? := by
  rw [List.findIdx?_eq_findSome?_zipIdx, ← List.head?_filterMap, List.head?_eq_getElem?]
  rfl

end Occurrences

variable [PartialEquivBEq α]

section Operations

theorem congruent_contains (b : List α) : Congruent b.contains := fun _ _ => List.contains_congr

/-- Keeping first occurrences loses no item up to equality. -/
theorem contains_unique (a : List α) (v : α) : (unique a).contains v = a.contains v := by
  induction a using unique_induction with
  | nil => rfl
  | cons w a ih =>
    have congruent : Congruent fun u => !u == w := fun u t equal =>
      congrArg Bool.not (BEq.congr_left equal)
    rw [unique_cons, List.contains_cons, List.contains_cons, ih, contains_filter congruent]
    cases v == w
    · simp
    · simp

private theorem contains_intersection (a b : List α) (v : α) :
    (intersection a b).contains v = (a.contains v && b.contains v) := by
  rw [intersection, contains_unique, contains_filter (congruent_contains b)]

private theorem contains_difference (a b : List α) (v : α) :
    (difference a b).contains v = (a.contains v && !b.contains v) :=
  contains_filter (congruent_contains b).not a v

/-- Taking away what a list has beyond another leaves what it has in common with it. -/
theorem difference_difference (reflexive : ∀ v ∈ a, (v == v) = true) (b : List α) :
    difference a (difference a b) = a.filter b.contains := by
  refine List.filter_congr fun v member => ?_
  rw [contains_difference, contains_of_mem reflexive member, Bool.true_and, Bool.not_not]

theorem unique_symmetricDifference (reflexiveA : ∀ v ∈ a, (v == v) = true)
    (reflexiveB : ∀ v ∈ b, (v == v) = true) :
    unique (symmetricDifference a b) = difference (union a b) (intersection a b) := by
  have congruent : Congruent fun v => !(a.contains v && b.contains v) :=
    ((congruent_contains a).and (congruent_contains b)).not
  have left : a.filter (fun v => !(a.contains v && b.contains v)) = difference a b :=
    List.filter_congr fun v member => by rw [contains_of_mem reflexiveA member, Bool.true_and]
  have right : b.filter (fun v => !(a.contains v && b.contains v)) = difference b a :=
    List.filter_congr fun v member => by rw [contains_of_mem reflexiveB member, Bool.and_true]
  calc
    unique (symmetricDifference a b)
      = unique ((a ++ b).filter fun v => !(a.contains v && b.contains v)) := by
        rw [List.filter_append, left, right, symmetricDifference]
    _ = (union a b).filter (fun v => !(a.contains v && b.contains v)) := unique_filter congruent _
    _ = difference (union a b) (intersection a b) := by
        simp only [difference, contains_intersection]

theorem isDisjoint_comm (a b : List α) : isDisjoint a b = isDisjoint b a := by
  refine congrArg Bool.not (Bool.eq_iff_iff.mpr ?_)
  simp only [List.any_eq_true, List.contains_iff_exists_mem_beq]
  constructor
  · rintro ⟨v, inA, w, inB, equal⟩
    exact ⟨w, inB, v, inA, BEq.symm equal⟩
  · rintro ⟨w, inB, v, inA, equal⟩
    exact ⟨v, inA, w, inB, BEq.symm equal⟩

end Operations

section Subsets

theorem distinct_unique (a : List α) : Distinct (unique a) := by
  induction a using unique_induction with
  | nil => exact List.Pairwise.nil
  | cons v a ih =>
    rw [unique_cons]
    refine List.pairwise_cons.mpr ⟨fun w member => ?_, ih⟩
    have other := (List.mem_filter.mp ((unique_sublist _).subset member)).2
    rw [BEq.comm]
    simpa using other

theorem unique_of_distinct (distinct : Distinct a) : unique a = a := by
  induction a with
  | nil => rfl
  | cons v a ih =>
    obtain ⟨others, distinct⟩ := List.pairwise_cons.mp distinct
    have kept : a.filter (fun w => !w == v) = a := List.filter_eq_self.mpr fun w member => by
      rw [BEq.comm, others w member, Bool.not_false]
    rw [unique_cons, kept, ih distinct]

/-- Distinct items of a list that occur in another are matched with distinct places there. -/
theorem length_le_of_difference_eq_nil (distinct : Distinct a) (covered : difference a b = []) :
    a.length ≤ b.length := by
  rw [difference_eq_nil_iff] at covered
  induction a generalizing b with
  | nil => exact Nat.zero_le _
  | cons v a ih =>
    obtain ⟨others, distinct⟩ := List.pairwise_cons.mp distinct
    obtain ⟨⟨w, member, equal⟩, covered⟩ := List.forall_mem_cons.mp covered
    -- One item equal to `v` is taken out of `b`: the other items of `a` do not need it.
    have shorter : (b.eraseP (v == ·)).length + 1 = b.length := by
      have positive := List.length_pos_of_mem member
      rw [List.length_eraseP_of_mem member equal]
      omega
    have rest := ih (b := b.eraseP (v == ·)) distinct fun u inside => by
      obtain ⟨t, inB, same⟩ := covered u inside
      refine ⟨t, (List.mem_eraseP_of_neg fun taken => ?_).mpr inB, same⟩
      have clash := BEq.trans taken (BEq.symm same)
      rw [others u inside] at clash
      exact Bool.false_ne_true clash
    rw [List.length_cons]
    omega

theorem difference_unique_left (a b : List α) : difference (unique a) b = unique (difference a b) :=
  (unique_filter (congruent_contains b).not a).symm

/-- First occurrences are as many as the list has items only if no item repeats an earlier one. -/
theorem length_le_unique_iff : a.length ≤ (unique a).length ↔ Distinct a := by
  constructor
  · intro long
    have same : unique a = a := (unique_sublist a).eq_of_length_le long
    exact same ▸ distinct_unique a
  · intro distinct
    exact Nat.le_of_eq (congrArg List.length (unique_of_distinct distinct)).symm

/-- Everything in a list occurs in a union with it, in itself for one. -/
theorem difference_union_eq_nil (reflexive : ∀ v ∈ a, (v == v) = true) (b : List α) :
    difference a (union a b) = [] := by
  refine List.filter_eq_nil_iff.mpr fun v member => ?_
  rw [union, contains_unique, List.contains_append, contains_of_mem reflexive member]
  simp

end Subsets

end StackVM.Sequence
