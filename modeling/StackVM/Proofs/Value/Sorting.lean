import StackVM.Builtin.ListFunction
import Mathlib.Data.List.Perm.Basic
import Mathlib.Data.String.Basic

/-! # Sorting values

Two values are compared by their classes, then by their ranks as numbers and then as texts, so that
`sortCompare` is a total preorder. `SortsTo` says what a stable ascending sort of a list is: there is
exactly one, `sort` computes it, and `isSorted` recognizes the lists that are their own.
-/

namespace StackVM.Value

variable {a b c : Value} {x y z : List Value}

section Order

/-- The place of a number or truth value among its kind. -/
def sortRank : Value → Int
  | .num x => x.rank
  | .bool b => (toDouble (.bool b)).rank
  | _ => 0

/-- The place of a text among texts. -/
def sortText : Value → String
  | .str s => s
  | _ => ""

theorem compareText_eq_compare (s t : String) : compareText s t = compare s t := by
  change _ = compareOfLessAndEq s t
  unfold compareText compareOfLessAndEq
  rcases lt_trichotomy s t with less | rfl | greater
  · rw [if_pos less, if_pos less]
  · simp
  · rw [if_neg greater.not_gt, if_neg greater.not_gt, if_pos greater, if_neg greater.ne']

theorem sortCompare_eq_lex :
    sortCompare =
      compareLex (compareOn sortClass) (compareLex (compareOn sortRank) (compareOn sortText)) := by
  funext a b
  -- ranks and texts of other classes are alike, so in each case at most one comparison decides
  cases a <;> cases b <;>
    simp [sortCompare, compareLex, compareOn, sortClass, sortRank, sortText, toDouble,
      Double.totalCompare, compareText_eq_compare] <;>
    rfl

instance : Std.TransCmp sortCompare := by
  rw [sortCompare_eq_lex]
  infer_instance

theorem sortLe_eq_isLE (a b : Value) : sortLe a b = (sortCompare a b).isLE := by
  unfold sortLe
  cases sortCompare a b <;> rfl

theorem sortLe_trans (a b c : Value) (ab : sortLe a b) (bc : sortLe b c) : sortLe a c := by
  rw [sortLe_eq_isLE] at ab bc ⊢
  exact Std.TransCmp.isLE_trans ab bc

private theorem sortLe_total (a b : Value) : (sortLe a b || sortLe b a) = true := by
  rw [sortLe_eq_isLE, sortLe_eq_isLE, @Std.OrientedCmp.eq_swap _ sortCompare _ b a]
  cases sortCompare a b <;> rfl

theorem sortLe_iff_ne_gt : sortLe a b = true ↔ sortCompare a b ≠ .gt := bne_iff_ne

private theorem sortCompare_eq_of_sortLe (ab : sortLe a b) (ba : sortLe b a) :
    sortCompare a b = .eq := by
  rw [sortLe_eq_isLE] at ab ba
  exact Std.OrientedCmp.isLE_antisymm ab ba

/-- Two values that compare equal with a third one may stand in either order. -/
theorem sortLe_of_eq (ca : sortCompare c a = .eq) (cb : sortCompare c b = .eq) : sortLe a b := by
  have ac : sortCompare a c = .eq := by rw [@Std.OrientedCmp.eq_swap _ sortCompare _ a c, ca]; rfl
  rw [sortLe_iff_ne_gt, Std.TransCmp.eq_trans ac cb]
  decide

end Order

section Lists

/-- The values of a list that compare equal with a value, in their order. -/
def peers (v : Value) (x : List Value) : List Value := x.filter fun w => sortCompare v w == .eq

/-- `y` is a stable ascending sort of `x`. -/
structure SortsTo (x y : List Value) : Prop where
  perm : y.Perm x
  ascending : y.Pairwise fun a b => sortCompare a b ≠ .gt
  stable : ∀ v, peers v y = peers v x

private theorem isSorted_iff_isChain :
    isSorted x = true ↔ x.IsChain fun a b => sortLe a b = true := by
  fun_induction isSorted x with
  | case1 a b rest ih => simp [ih]
  | case2 x short =>
    rcases x with _ | ⟨a, _ | ⟨b, rest⟩⟩
    · simp
    · simp
    · exact absurd rfl (short a b rest)

instance : Trans (fun a b => sortLe a b = true) (fun a b => sortLe a b = true)
    (fun a b => sortLe a b = true) :=
  ⟨fun {a b c} => sortLe_trans a b c⟩

private theorem isSorted_iff_pairwise :
    isSorted x = true ↔ x.Pairwise fun a b => sortLe a b = true :=
  isSorted_iff_isChain.trans List.isChain_iff_pairwise

private theorem pairwise_sort (x : List Value) : (sort x).Pairwise fun a b => sortLe a b = true :=
  List.pairwise_mergeSort sortLe_trans sortLe_total x

private theorem pairwise_peers (v : Value) (x : List Value) :
    (peers v x).Pairwise fun a b => sortLe a b = true := by
  refine List.pairwise_of_forall_mem_list fun a ha b hb => ?_
  have va : sortCompare v a = .eq := by simpa using (List.mem_filter.mp ha).2
  have vb : sortCompare v b = .eq := by simpa using (List.mem_filter.mp hb).2
  exact sortLe_of_eq va vb

/-- Peers are in order already, so sorting keeps them as a subsequence; it cannot add any. -/
theorem peers_sort (v : Value) (x : List Value) : peers v (sort x) = peers v x := by
  have within : (peers v x).Sublist (sort x) :=
    List.sublist_mergeSort sortLe_trans sortLe_total (pairwise_peers v x) List.filter_sublist
  have kept : (peers v x).Sublist (peers v (sort x)) := by
    have := within.filter fun w => sortCompare v w == .eq
    simpa only [peers, List.filter_filter, Bool.and_self] using this
  exact (kept.eq_of_length ((List.mergeSort_perm x sortLe).filter _).length_eq.symm).symm

private theorem sortsTo_sort (x : List Value) : SortsTo x (sort x) where
  perm := List.mergeSort_perm x sortLe
  ascending := (pairwise_sort x).imp sortLe_iff_ne_gt.mp
  stable v := peers_sort v x

private theorem sortLe_of_mem (ascending : (a :: y).Pairwise fun a b => sortCompare a b ≠ .gt)
    (member : b ∈ a :: y) : sortLe a b := by
  rcases List.mem_cons.mp member with rfl | later
  · exact sortLe_of_eq (c := b) Std.ReflCmp.compare_self Std.ReflCmp.compare_self
  · exact sortLe_iff_ne_gt.mpr (List.rel_of_pairwise_cons ascending later)

theorem SortsTo.unique (hy : SortsTo x y) (hz : SortsTo x z) : y = z := by
  induction y generalizing x z with
  | nil => exact (hz.perm.trans hy.perm.symm).eq_nil.symm
  | cons a y ih =>
    have perm : (a :: y).Perm z := hy.perm.trans hz.perm.symm
    cases z with
    | nil => exact absurd perm.length_eq (by simp)
    | cons b z =>
      have less : sortLe a b := sortLe_of_mem hy.ascending (perm.mem_iff.mpr List.mem_cons_self)
      have greater : sortLe b a := sortLe_of_mem hz.ascending (perm.mem_iff.mp List.mem_cons_self)
      have equal : sortCompare a b = .eq := sortCompare_eq_of_sortLe less greater
      -- both heads are the first peer of `a`
      have firsts : peers a (a :: y) = peers a (b :: z) := (hy.stable a).trans (hz.stable a).symm
      obtain ⟨rfl, -⟩ : a = b ∧ peers a y = peers a z := by
        simpa [peers, equal, Std.ReflCmp.compare_self] using firsts
      have rest : SortsTo z y := by
        refine ⟨perm.cons_inv, hy.ascending.of_cons, fun v => ?_⟩
        have whole : peers v (a :: y) = peers v (a :: z) := (hy.stable v).trans (hz.stable v).symm
        simp only [peers, List.filter_cons] at whole ⊢
        split at whole
        · exact (List.cons.inj whole).2
        · exact whole
      rw [ih rest ⟨.refl z, hz.ascending.of_cons, fun _ => rfl⟩]

end Lists

/-- The order of values is a total preorder; `sort` gives the one stable ascending sort of an array,
and `sorted` tells whether an array is its own. -/
theorem sort_and_sorted_agree :
    (∀ a b, sortCompare b a = (sortCompare a b).swap) ∧
    (∀ a b c, sortCompare a b ≠ .gt → sortCompare b c ≠ .gt → sortCompare a c ≠ .gt) ∧
    ∀ x : List Value, ∃ y : List Value,
      ListFunction.sort.apply [.arr x] = { value := .arr y } ∧
      SortsTo x y ∧ (∀ z, SortsTo x z → z = y) ∧
      ListFunction.sorted.apply [.arr y] = { value := .bool true } ∧
      ∃ answer, ListFunction.sorted.apply [.arr x] = { value := .bool answer } ∧
        (answer = true ↔ y = x) := by
  refine ⟨fun a b => Std.OrientedCmp.eq_swap, fun a b c ab bc => ?_, fun x => ?_⟩
  · exact sortLe_iff_ne_gt.mp (sortLe_trans a b c (sortLe_iff_ne_gt.mpr ab) (sortLe_iff_ne_gt.mpr bc))
  have recognized : isSorted (sort x) = true := isSorted_iff_pairwise.mpr (pairwise_sort x)
  refine ⟨sort x, rfl, sortsTo_sort x, fun z hz => hz.unique (sortsTo_sort x), ?_, isSorted x, rfl, ?_⟩
  · change ({ value := .bool (isSorted (sort x)) } : Reply) = _
    rw [recognized]
  · constructor
    · intro sorted
      exact List.mergeSort_of_pairwise (isSorted_iff_pairwise.mp sorted)
    · intro own
      rwa [own] at recognized

-- The NaNs stand at the two ends of the numbers.
example :
    isSorted [.num .negativeNaN, .num (-Number.infinity : Float), .num 1, .num Number.nan] = true := by
  decide

end StackVM.Value
